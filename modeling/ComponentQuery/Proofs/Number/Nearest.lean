import ComponentQuery.Proofs.Number.Rounding
import Mathlib.Data.Nat.Dist

/-!
# The nearest double

What rounding is meant to give, without reference to how it is done.  `RoundsTo` says which number
with at most 53 significant bits a number of quanta is rounded to: none is nearer, and where
another one is equally near, it is the one whose last significant bit is zero.  `IsNearest` says
which double that is: the one of so many quanta, or infinity if they are too many.

The main results are that there is always exactly one such double, and that `ofQuotient` gives it
(`isNearest_iff`).
-/

namespace ComponentQuery.Binary64

/-- The weight of the last of the 53 leading bits of a number. -/
def unit (quanta : Nat) : Nat := Nat.pow 2 (Nat.log2 quanta - 52)

/-- A number is rounded to another one: to one with at most 53 significant bits, the nearest such
number, and of two that are equally near the even one. -/
structure RoundsTo (value quanta : Nat) : Prop where
  precise : Precise quanta
  nearest : ∀ other, Precise other → Nat.dist quanta value ≤ Nat.dist other value
  even : ∀ other, Precise other → other ≠ quanta →
    Nat.dist other value = Nat.dist quanta value → 2 * unit quanta ∣ quanta

/-- The double nearest to a number of quanta: the number is rounded as if there were no greatest
double, and what comes out too large is infinity. -/
inductive IsNearest (value : Nat) : Binary64 → Prop where
  | finite {quanta : Nat} (h : RoundsTo value quanta) (hfits : Fits quanta) :
      IsNearest value (.finite false quanta hfits)
  | overflow {quanta : Nat} (h : RoundsTo value quanta) (hlarge : overflow ≤ quanta) :
      IsNearest value (.infinite false)

/-! ## Units -/

lemma unit_pos (quanta : Nat) : 0 < unit quanta := pow_two_pos _

lemma unit_dvd_unit {a b : Nat} (h : Nat.log2 a ≤ Nat.log2 b) : unit a ∣ unit b :=
  Nat.pow_dvd_pow 2 (by omega)

/-- A number with at most 53 significant bits is a multiple of the unit of a value, or it has
fewer bits than the value. -/
lemma unit_dvd_or_log2_lt (value : Nat) {quanta : Nat} (h : Precise quanta) :
    unit value ∣ quanta ∨ Nat.log2 quanta < Nat.log2 value := by
  rcases Nat.lt_or_ge (Nat.log2 quanta) (Nat.log2 value) with hlt | hge
  · exact .inr hlt
  · exact .inl ((unit_dvd_unit hge).trans h)

lemma precise_pow (e : Nat) : Precise (Nat.pow 2 e) := by
  simpa using precise_mul_pow 1 e (by decide)

/-- A number of fewer bits than a value is farther from it than the power of two in between. -/
lemma dist_pow_lt {value quanta : Nat} (h : Nat.log2 quanta < Nat.log2 value) :
    Nat.dist (Nat.pow 2 (Nat.log2 value)) value < Nat.dist quanta value := by
  have hne : value ≠ 0 := by
    rintro rfl
    simp at h
  have hle : Nat.pow 2 (Nat.log2 value) ≤ value := Nat.log2_self_le hne
  have hlt : quanta < Nat.pow 2 (Nat.log2 value) :=
    Nat.lt_of_lt_of_le Nat.lt_log2_self (Nat.pow_le_pow_right (by decide) h)
  simp only [Nat.dist]
  omega

/-- The value without the bits behind the 53 leading ones. -/
lemma exists_floor (value : Nat) :
    ∃ s, Precise (s * unit value) ∧ s * unit value ≤ value ∧
      value < s * unit value + unit value := by
  refine ⟨value / unit value, precise_mul_pow _ _ ?_, Nat.div_mul_le_self _ _, ?_⟩
  · refine Nat.le_of_lt (Nat.div_lt_of_lt_mul ?_)
    calc value < Nat.pow 2 (Nat.log2 value + 1) := Nat.lt_log2_self
      _ ≤ Nat.pow 2 ((Nat.log2 value - 52) + 53) := Nat.pow_le_pow_right (by decide) (by omega)
      _ = unit value * Nat.pow 2 53 := Nat.pow_add ..
  · have hmod := Nat.mod_lt value (unit_pos value)
    have hdiv := Nat.div_add_mod value (unit value)
    rw [Nat.mul_comm] at hdiv
    omega

/-- The greatest power of two up to a value is a multiple of its unit. -/
lemma unit_dvd_pow_log2 (value : Nat) : unit value ∣ Nat.pow 2 (Nat.log2 value) :=
  Nat.pow_dvd_pow 2 (Nat.sub_le ..)

/-! ## Rounding to a multiple -/

/-- The four cases of rounding a quotient: down, up, and from half way to the even neighbour. -/
lemma roundQuotient_cases (num den : Nat) :
    (2 * (num % den) < den ∧ roundQuotient num den = num / den) ∨
      (den < 2 * (num % den) ∧ roundQuotient num den = num / den + 1) ∨
      (2 * (num % den) = den ∧ num / den % 2 = 0 ∧ roundQuotient num den = num / den) ∨
      (2 * (num % den) = den ∧ num / den % 2 = 1 ∧ roundQuotient num den = num / den + 1) := by
  unfold roundQuotient
  dsimp only
  rcases Nat.lt_trichotomy (2 * (num % den)) den with h | h | h
  · exact .inl ⟨h, by rw [Nat.compare_eq_lt.2 h]⟩
  · rw [h, Nat.compare_eq_eq.2 rfl]
    rcases Nat.mod_two_eq_zero_or_one (num / den) with heven | hodd
    · exact .inr (.inr (.inl ⟨rfl, heven, if_pos heven⟩))
    · exact .inr (.inr (.inr ⟨rfl, hodd, if_neg (by omega)⟩))
  · exact .inr (.inl ⟨h, by rw [Nat.compare_eq_gt.2 h]⟩)

/-- No multiple is nearer than the rounded quotient, and if another one is equally near, the
rounded quotient is even. -/
lemma roundQuotient_nearest (num : Nat) {den : Nat} (hden : 0 < den) (k : Nat) :
    Nat.dist (roundQuotient num den * den) num ≤ Nat.dist (k * den) num ∧
      (k ≠ roundQuotient num den →
        Nat.dist (k * den) num = Nat.dist (roundQuotient num den * den) num →
        roundQuotient num den % 2 = 0) := by
  have hmod := Nat.mod_lt num hden
  have hdiv : num / den * den + num % den = num := Nat.div_add_mod' num den
  have hcases := roundQuotient_cases num den
  generalize num / den = s at hdiv hcases
  generalize num % den = m at hmod hdiv hcases
  generalize roundQuotient num den = r at hcases
  have hup : (s + 1) * den = s * den + den := Nat.succ_mul s den
  -- A multiple other than the two neighbours is farther by a whole step.
  have hk : k * den + den ≤ s * den ∨ k = s ∨ k = s + 1 ∨ s * den + 2 * den ≤ k * den := by
    rcases Nat.lt_trichotomy k s with h | h | h
    · exact .inl (Nat.succ_mul k den ▸ Nat.mul_le_mul_right den h)
    · exact .inr (.inl h)
    · rcases Nat.eq_or_lt_of_le (Nat.succ_le_of_lt h) with h | h
      · exact .inr (.inr (.inl h.symm))
      · refine .inr (.inr (.inr ?_))
        calc s * den + 2 * den = (s + 2) * den := (Nat.add_mul ..).symm
          _ ≤ k * den := Nat.mul_le_mul_right den h
  simp only [Nat.dist]
  rcases hcases with ⟨h, rfl⟩ | ⟨h, rfl⟩ | ⟨h, heven, rfl⟩ | ⟨h, hodd, rfl⟩ <;>
    rcases hk with hk | rfl | rfl | hk <;> omega

/-- A multiple of a power of two by an even number up to `2 ^ 53` has a last significant bit of
zero. -/
lemma two_unit_dvd {significand e : Nat} (h : significand ≤ Nat.pow 2 53)
    (heven : significand % 2 = 0) :
    2 * unit (significand * Nat.pow 2 e) ∣ significand * Nat.pow 2 e := by
  obtain ⟨half, rfl⟩ := Nat.dvd_of_mod_eq_zero heven
  have hhalf : half ≤ Nat.pow 2 52 := by
    have : Nat.pow 2 53 = 2 * Nat.pow 2 52 := by decide
    omega
  rw [Nat.mul_assoc]
  refine Nat.mul_dvd_mul_left 2 ?_
  -- Twice the number has the unit of the number, or twice it if half the number is `2 ^ 52`.
  rcases Nat.lt_or_eq_of_le hhalf with hlt | rfl
  · refine Nat.dvd_trans (Nat.pow_dvd_pow 2 ?_) (Nat.dvd_mul_left (Nat.pow 2 e) half)
    rcases Nat.eq_zero_or_pos half with rfl | hpos
    · simp
    · have hlog : Nat.log2 (2 * (half * Nat.pow 2 e)) < 53 + e := by
        refine (Nat.log2_lt ?_).2 ?_
        · have := Nat.mul_pos hpos (pow_two_pos e)
          omega
        · calc 2 * (half * Nat.pow 2 e)
              < 2 * (Nat.pow 2 52 * Nat.pow 2 e) :=
                Nat.mul_lt_mul_of_pos_left
                  (Nat.mul_lt_mul_of_pos_right hlt (pow_two_pos e)) Nat.two_pos
            _ = 2 ^ 53 * 2 ^ e := (Nat.mul_assoc ..).symm
            _ = 2 ^ (53 + e) := (Nat.pow_add ..).symm
      omega
  · have hpow : 2 * (Nat.pow 2 52 * Nat.pow 2 e) = Nat.pow 2 (53 + e) := by
      rw [← Nat.mul_assoc]
      exact (Nat.pow_add 2 53 e).symm
    have hlog : Nat.log2 (Nat.pow 2 (53 + e)) = 53 + e := Nat.log2_two_pow
    have hlow : Nat.pow 2 52 * Nat.pow 2 e = Nat.pow 2 (52 + e) := (Nat.pow_add ..).symm
    rw [hpow, hlow, unit, hlog]
    exact Nat.pow_dvd_pow 2 (by omega)

/-! ## Rounding to nearest -/

lemma nearestQuanta_one (value : Nat) :
    nearestQuanta value 1 = roundQuotient value (unit value) * unit value := by
  simp only [nearestQuanta, unit, Nat.div_one, Nat.one_mul]

theorem roundsTo_nearestQuanta (value : Nat) : RoundsTo value (nearestQuanta value 1) := by
  have hmultiple := roundQuotient_nearest value (unit_pos value)
  have hfar : ∀ {other : Nat}, Nat.log2 other < Nat.log2 value →
      Nat.dist (nearestQuanta value 1) value < Nat.dist other value := by
    intro other hlt
    obtain ⟨k, hk⟩ := unit_dvd_pow_log2 value
    calc Nat.dist (nearestQuanta value 1) value
        ≤ Nat.dist (k * unit value) value := nearestQuanta_one value ▸ (hmultiple k).1
      _ = Nat.dist (Nat.pow 2 (Nat.log2 value)) value := by rw [hk, Nat.mul_comm]
      _ < Nat.dist other value := dist_pow_lt hlt
  refine ⟨precise_nearestQuanta value 1, fun other hother => ?_, fun other hother hne heq => ?_⟩
  · rcases unit_dvd_or_log2_lt value hother with ⟨k, rfl⟩ | hlt
    · rw [nearestQuanta_one, Nat.mul_comm (unit value) k]
      exact (hmultiple k).1
    · exact Nat.le_of_lt (hfar hlt)
  · rcases unit_dvd_or_log2_lt value hother with ⟨k, rfl⟩ | hlt
    · rw [nearestQuanta_one] at hne heq ⊢
      rw [Nat.mul_comm (unit value) k] at hne heq
      have heven := (hmultiple k).2 (fun h => hne (by rw [h])) heq
      have hle := roundQuotient_grid_le value 1
      simp only [Nat.div_one, Nat.one_mul] at hle
      exact two_unit_dvd hle heven
    · exact absurd heq (Nat.ne_of_gt (hfar hlt))

lemma RoundsTo.log2_le {value quanta : Nat} (h : RoundsTo value quanta) :
    Nat.log2 value ≤ Nat.log2 quanta := by
  -- Otherwise the power of two up to the number would be nearer.
  refine Nat.le_of_not_lt fun hlt => ?_
  exact Nat.not_le.2 (dist_pow_lt hlt) (h.nearest _ (precise_pow _))

theorem RoundsTo.unique {value a b : Nat} (ha : RoundsTo value a) (hb : RoundsTo value b) :
    a = b := by
  by_contra hne
  have hdist : Nat.dist a value = Nat.dist b value :=
    Nat.le_antisymm (ha.nearest b hb.precise) (hb.nearest a ha.precise)
  -- Both are even, so that they are two units apart, but each is less than a unit off.
  obtain ⟨j, hj⟩ := (Nat.mul_dvd_mul_left 2 (unit_dvd_unit ha.log2_le)).trans
    (ha.even b hb.precise (Ne.symm hne) hdist.symm)
  obtain ⟨k, hk⟩ := (Nat.mul_dvd_mul_left 2 (unit_dvd_unit hb.log2_le)).trans
    (hb.even a ha.precise hne hdist)
  obtain ⟨s, hs, hle, hlt⟩ := exists_floor value
  have hnear := ha.nearest _ hs
  have hjk : 2 * unit value * j + 2 * unit value ≤ 2 * unit value * k ∨
      2 * unit value * k + 2 * unit value ≤ 2 * unit value * j := by
    rcases Nat.lt_trichotomy j k with h | rfl | h
    · exact .inl (Nat.mul_succ .. ▸ Nat.mul_le_mul_left _ h)
    · exact absurd (hj.trans hk.symm) hne
    · exact .inr (Nat.mul_succ .. ▸ Nat.mul_le_mul_left _ h)
  simp only [Nat.dist] at hdist hnear
  omega

/-- **The double nearest to a number is the one that `ofQuotient` gives**, and there is no other. -/
theorem isNearest_iff {value : Nat} {x : Binary64} :
    IsNearest value x ↔ x = ofQuotient false value 1 := by
  constructor
  · rintro (⟨h, hfits⟩ | ⟨h, hlarge⟩)
    · exact (ofQuotient_of_nearestQuanta false hfits
        ((roundsTo_nearestQuanta value).unique h)).symm
    · rw [← (roundsTo_nearestQuanta value).unique h] at hlarge
      rw [ofQuotient, dif_neg (Nat.not_lt.2 hlarge)]
  · intro h
    rw [h, ofQuotient]
    by_cases hlt : nearestQuanta value 1 < overflow
    · rw [dif_pos hlt]
      exact .finite (roundsTo_nearestQuanta value) (fits_nearestQuanta hlt)
    · rw [dif_neg hlt]
      exact .overflow (roundsTo_nearestQuanta value) (Nat.le_of_not_lt hlt)

end ComponentQuery.Binary64
