import ComponentQuery.Number.Decimal
import Mathlib.Tactic.Ring
import Mathlib.Tactic.Common

/-!
# Rounding as a function of the exact value

A quotient of quanta is given by a numerator and a denominator, and a decimal by digits and an
exponent, so that one number has many forms.  Rounding does not depend on the form:
`ofQuotient_eq_of_mul_eq` says so for quotients and `ofDecimal_mul_pow` for decimals.

On the way stands `ofDecimal_eq_ofQuotient`: the two bounds on exponents, beyond which no power
is taken, change nothing, as numbers beyond them round to infinity and to zero anyway.  And a number
that is a double already is rounded to itself, by `ofQuotient_of_fits`.
-/

namespace ComponentQuery

namespace Binary64

/-! ## Quotients -/

lemma pow_two_pos (e : Nat) : 0 < Nat.pow 2 e := Nat.two_pow_pos e

lemma pow_ten_pos (e : Nat) : 0 < Nat.pow 10 e := Nat.pow_pos (by decide)

lemma pow_ten_le {m n : Nat} (h : m ≤ n) : Nat.pow 10 m ≤ Nat.pow 10 n :=
  Nat.pow_le_pow_right (by decide) h

/-- Rounding to a natural number depends on the value of the quotient only. -/
lemma roundQuotient_mul {k : Nat} (hk : 0 < k) (num den : Nat) :
    roundQuotient (num * k) (den * k) = roundQuotient num den := by
  have hcompare : compare (2 * (num * k % (den * k))) (den * k) =
      compare (2 * (num % den)) den := by
    rw [Nat.mul_mod_mul_right, ← Nat.mul_assoc]
    rcases Nat.lt_trichotomy (2 * (num % den)) den with h | h | h
    · rw [Nat.compare_eq_lt.2 h, Nat.compare_eq_lt.2 (Nat.mul_lt_mul_of_pos_right h hk)]
    · rw [h, Nat.compare_eq_eq.2 rfl, Nat.compare_eq_eq.2 rfl]
    · rw [Nat.compare_eq_gt.2 h, Nat.compare_eq_gt.2 (Nat.mul_lt_mul_of_pos_right h hk)]
  unfold roundQuotient
  simp only [hcompare, Nat.mul_div_mul_right _ _ hk]

/-- Rounding to a double depends on the value of the quotient only. -/
lemma nearestQuanta_mul {k : Nat} (hk : 0 < k) (num den : Nat) :
    nearestQuanta (num * k) (den * k) = nearestQuanta num den := by
  unfold nearestQuanta
  simp only [Nat.mul_div_mul_right _ _ hk]
  rw [Nat.mul_right_comm den k, roundQuotient_mul hk]

lemma ofQuotient_congr {negative : Bool} {num den num' den' : Nat}
    (h : nearestQuanta num den = nearestQuanta num' den') :
    ofQuotient negative num den = ofQuotient negative num' den' := by
  unfold ofQuotient
  simp only [h]

/-- Quotients of the same value are rounded to the same double. -/
theorem ofQuotient_eq_of_mul_eq {negative : Bool} {num den num' den' : Nat} (hden : 0 < den)
    (hden' : 0 < den') (h : num * den' = num' * den) :
    ofQuotient negative num den = ofQuotient negative num' den' := by
  apply ofQuotient_congr
  calc nearestQuanta num den
      = nearestQuanta (num * den') (den * den') := (nearestQuanta_mul hden' num den).symm
    _ = nearestQuanta (num' * den) (den' * den) := by rw [h, Nat.mul_comm den den']
    _ = nearestQuanta num' den' := nearestQuanta_mul hden num' den'

lemma roundQuotient_mul_self {den : Nat} (hden : 0 < den) (n : Nat) :
    roundQuotient (n * den) den = n := by
  unfold roundQuotient
  simp only [Nat.mul_mod_left, Nat.mul_zero, Nat.mul_div_cancel n hden,
    Nat.compare_eq_lt.2 hden]

/-- A number of quanta with at most 53 significant bits is rounded to itself. -/
lemma nearestQuanta_of_precise {quanta : Nat} (h : Precise quanta) :
    nearestQuanta quanta 1 = quanta := by
  unfold nearestQuanta
  simp only [Nat.div_one, Nat.one_mul]
  have hpos := pow_two_pos (Nat.log2 quanta - 52)
  obtain ⟨n, hn⟩ := h
  generalize Nat.pow 2 (Nat.log2 quanta - 52) = unit at hn hpos
  have hn : quanta = n * unit := hn.trans (Nat.mul_comm ..)
  calc roundQuotient quanta unit * unit
      = roundQuotient (n * unit) unit * unit := by rw [hn]
    _ = n * unit := by rw [roundQuotient_mul_self hpos]
    _ = quanta := hn.symm

lemma ofQuotient_of_nearestQuanta (negative : Bool) {num den quanta : Nat} (hfits : Fits quanta)
    (h : nearestQuanta num den = quanta) :
    ofQuotient negative num den = .finite negative quanta hfits := by
  subst h
  exact dif_pos hfits.2

lemma nearestQuanta_of_ofQuotient {negative s : Bool} {num den quanta : Nat} {hfits : Fits quanta}
    (h : ofQuotient negative num den = .finite s quanta hfits) :
    nearestQuanta num den = quanta := by
  unfold ofQuotient at h
  split at h
  · exact (Binary64.finite.inj h).2
  · simp at h

theorem ofQuotient_of_fits (negative : Bool) {quanta : Nat} (h : Fits quanta) :
    ofQuotient negative quanta 1 = .finite negative quanta h :=
  ofQuotient_of_nearestQuanta negative h (nearestQuanta_of_precise h.1)

/-! ## Numbers beyond the doubles -/

lemma le_nearestQuanta {num den e : Nat} (hden : 0 < den) (h : Nat.pow 2 e * den ≤ num) :
    Nat.pow 2 e ≤ nearestQuanta num den := by
  have hq : Nat.pow 2 e ≤ num / den := (Nat.le_div_iff_mul_le hden).2 h
  have hlog : e ≤ Nat.log2 (num / den) := by
    rw [Nat.le_log2 (Nat.ne_of_gt (Nat.lt_of_lt_of_le (pow_two_pos e) hq))]
    exact hq
  unfold nearestQuanta
  generalize hL : Nat.log2 (num / den) = L at hlog
  have hself : Nat.pow 2 L ≤ num / den := by
    rw [← hL]
    exact Nat.log2_self_le (Nat.ne_of_gt (Nat.lt_of_lt_of_le (pow_two_pos e) hq))
  have hfloor : num / den / Nat.pow 2 (L - 52) ≤
      roundQuotient num (den * Nat.pow 2 (L - 52)) := by
    rw [Nat.div_div_eq_div_mul]
    unfold roundQuotient
    dsimp only
    split
    · exact Nat.le_refl _
    · exact Nat.le_succ _
    · split <;> omega
  calc Nat.pow 2 e ≤ Nat.pow 2 L := Nat.pow_le_pow_right (by decide) hlog
    _ = Nat.pow 2 L / Nat.pow 2 (L - 52) * Nat.pow 2 (L - 52) :=
      (Nat.div_mul_cancel (Nat.pow_dvd_pow 2 (Nat.sub_le L 52))).symm
    _ ≤ num / den / Nat.pow 2 (L - 52) * Nat.pow 2 (L - 52) :=
      Nat.mul_le_mul_right _ (Nat.div_le_div_right hself)
    _ ≤ roundQuotient num (den * Nat.pow 2 (L - 52)) * Nat.pow 2 (L - 52) :=
      Nat.mul_le_mul_right _ hfloor

lemma ofQuotient_of_overflow_le {negative : Bool} {num den : Nat} (hden : 0 < den)
    (h : overflow * den ≤ num) : ofQuotient negative num den = .infinite negative := by
  have hle : overflow ≤ nearestQuanta num den := by
    unfold overflow at h ⊢
    generalize 2098 = e at h ⊢
    exact le_nearestQuanta hden h
  unfold ofQuotient
  rw [dif_neg (Nat.not_lt.2 hle)]

lemma ofQuotient_of_lt_half {negative : Bool} {num den : Nat} (h : 2 * num < den) :
    ofQuotient negative num den = zero negative := by
  have hnum : num < den := by omega
  have hzero : nearestQuanta num den = 0 := by
    unfold nearestQuanta
    rw [Nat.div_eq_of_lt hnum]
    have hlt : compare (2 * (num % den)) den = .lt := by
      rw [Nat.mod_eq_of_lt hnum]
      exact Nat.compare_eq_lt.2 h
    simp [roundQuotient, hlt, Nat.div_eq_of_lt hnum]
  unfold ofQuotient zero
  simp only [hzero, dif_pos overflow_pos]

/-! ## Decimals -/

/-- Ten to the 311, in quanta, is too large for a double. -/
lemma overflow_le {e : Nat} (h : 311 ≤ e) : overflow ≤ Nat.pow 10 e * Nat.pow 2 quantumBits := by
  have hbase : overflow ≤ Nat.pow 10 311 * Nat.pow 2 quantumBits := by decide +kernel
  generalize 311 = d at h hbase
  exact Nat.le_trans hbase (Nat.mul_le_mul_right _ (pow_ten_le h))

/-- Ten to the -331 is less than half a quantum. -/
lemma pow_ten_mul_le {d e : Nat} (h : d + 331 ≤ e) :
    Nat.pow 10 d * (2 * Nat.pow 2 quantumBits) ≤ Nat.pow 10 e := by
  have hbase : 2 * Nat.pow 2 quantumBits ≤ Nat.pow 10 331 := by decide +kernel
  generalize 331 = k at h hbase
  calc Nat.pow 10 d * (2 * Nat.pow 2 quantumBits) ≤ Nat.pow 10 d * Nat.pow 10 k :=
        Nat.mul_le_mul_left _ hbase
    _ = Nat.pow 10 (d + k) := (Nat.pow_add ..).symm
    _ ≤ Nat.pow 10 e := pow_ten_le h

/-- The numerator of a decimal as a quotient of quanta. -/
def decimalNum (digits : Nat) (exponent : Int) : Nat :=
  digits * Nat.pow 10 exponent.toNat * Nat.pow 2 quantumBits

/-- The denominator of a decimal as a quotient of quanta. -/
def decimalDen (exponent : Int) : Nat := Nat.pow 10 (-exponent).toNat

lemma decimalDen_pos (exponent : Int) : 0 < decimalDen exponent := pow_ten_pos _

lemma decimalDen_of_nonneg {exponent : Int} (h : 0 ≤ exponent) : decimalDen exponent = 1 := by
  unfold decimalDen
  rw [Int.toNat_eq_zero.2 (by omega)]

lemma decimalNum_of_nonpos (digits : Nat) {exponent : Int} (h : exponent ≤ 0) :
    decimalNum digits exponent = digits * Nat.pow 2 quantumBits := by
  have hone : Nat.pow 10 0 = 1 := rfl
  unfold decimalNum
  rw [Int.toNat_eq_zero.2 h, hone, Nat.mul_one]

lemma ofQuotient_zero (negative : Bool) {den : Nat} (hden : 0 < den) :
    ofQuotient negative 0 den = zero negative :=
  ofQuotient_of_lt_half (by simpa using hden)

/-- A decimal is the double nearest to its value, whatever its exponent. -/
theorem ofDecimal_eq_ofQuotient (negative : Bool) (digits : Nat) (exponent : Int) :
    ofDecimal negative digits exponent =
      ofQuotient negative (decimalNum digits exponent) (decimalDen exponent) := by
  unfold ofDecimal
  split_ifs with hzero hlarge hsmall hwhole
  · rw [hzero, decimalNum, Nat.zero_mul, Nat.zero_mul, ofQuotient_zero _ (decimalDen_pos _)]
  · -- Ten to the 311 is too large, and so is any multiple of it.
    symm
    refine ofQuotient_of_overflow_le (decimalDen_pos _) ?_
    rw [decimalDen_of_nonneg (by omega), Nat.mul_one]
    calc overflow ≤ Nat.pow 10 exponent.toNat * Nat.pow 2 quantumBits := overflow_le (by omega)
      _ ≤ decimalNum digits exponent :=
        Nat.mul_le_mul_right _ (Nat.le_mul_of_pos_left _ (Nat.pos_of_ne_zero hzero))
  · -- The digits are less than a power of two, and that is at most the same power of ten.
    symm
    have hdigits : digits < Nat.pow 10 (Nat.log2 digits + 1) :=
      Nat.lt_of_lt_of_le Nat.lt_log2_self (Nat.pow_le_pow_left (by decide) _)
    refine ofQuotient_of_lt_half ?_
    rw [decimalNum_of_nonpos _ (by omega)]
    calc 2 * (digits * Nat.pow 2 quantumBits)
        = digits * (2 * Nat.pow 2 quantumBits) := Nat.mul_left_comm ..
      _ < Nat.pow 10 (Nat.log2 digits + 1) * (2 * Nat.pow 2 quantumBits) :=
        Nat.mul_lt_mul_of_pos_right hdigits (Nat.mul_pos (by decide) (pow_two_pos _))
      _ ≤ decimalDen exponent := pow_ten_mul_le (by omega)
  · rw [decimalDen_of_nonneg hwhole, decimalNum]
  · rw [decimalNum_of_nonpos _ (by omega), decimalDen]

/-- Zeros behind the digits may go into the exponent. -/
theorem ofDecimal_mul_pow (negative : Bool) (digits k : Nat) (exponent : Int) :
    ofDecimal negative (digits * Nat.pow 10 k) exponent =
      ofDecimal negative digits (exponent + k) := by
  rw [ofDecimal_eq_ofQuotient, ofDecimal_eq_ofQuotient]
  refine ofQuotient_eq_of_mul_eq (decimalDen_pos _) (decimalDen_pos _) ?_
  have hpow : Nat.pow 10 k * Nat.pow 10 exponent.toNat * Nat.pow 10 (-(exponent + k)).toNat =
      Nat.pow 10 (exponent + k).toNat * Nat.pow 10 (-exponent).toNat := by
    simp only [Nat.pow_eq, ← Nat.pow_add]
    congr 1
    omega
  unfold decimalNum decimalDen
  calc digits * Nat.pow 10 k * Nat.pow 10 exponent.toNat * Nat.pow 2 quantumBits *
        Nat.pow 10 (-(exponent + k)).toNat
      = digits * Nat.pow 2 quantumBits *
        (Nat.pow 10 k * Nat.pow 10 exponent.toNat * Nat.pow 10 (-(exponent + k)).toNat) := by ring
    _ = digits * Nat.pow 2 quantumBits *
        (Nat.pow 10 (exponent + k).toNat * Nat.pow 10 (-exponent).toNat) := by rw [hpow]
    _ = digits * Nat.pow 10 (exponent + k).toNat * Nat.pow 2 quantumBits *
        Nat.pow 10 (-exponent).toNat := by ring

end Binary64

end ComponentQuery
