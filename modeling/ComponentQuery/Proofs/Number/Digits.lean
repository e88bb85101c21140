import ComponentQuery.Number.Notation
import ComponentQuery.Proofs.Number.Rounding

/-!
# Digits that read back

The text of a natural number denotes that number, and the digits that are taken for a double read as
that double.  The latter is `ofDecimal_shortest`.  It does not matter how the digits are found:
either a grid had a neighbour that was tried and reads back, or the exact value was taken,
and leaving out trailing zeros does not change the value.
-/

namespace ComponentQuery

namespace Decimal

/-! ## Digits as text -/

lemma ofDigits_eq_ofDigitChars (cs : List Char) : ofDigits cs = Nat.ofDigitChars 10 cs 0 := by
  unfold ofDigits Nat.ofDigitChars
  simp only [Nat.mul_comm 10]

@[simp] lemma ofDigits_digitsText (n : Nat) : ofDigits (digitsText n) = n := by
  rw [ofDigits_eq_ofDigitChars, digitsText, Nat.ofDigitChars_ten_toDigits]

/-- Digits in front of others count as many times more as there are places behind them. -/
lemma ofDigits_append (ds es : List Char) :
    ofDigits (ds ++ es) = ofDigits ds * Nat.pow 10 es.length + ofDigits es := by
  simp only [ofDigits_eq_ofDigitChars, Nat.ofDigitChars_append]
  rw [Nat.ofDigitChars_eq_ofDigitChars_zero, Nat.mul_comm]
  rfl

@[simp] lemma ofDigits_replicate_zero (n : Nat) : ofDigits (List.replicate n '0') = 0 := by
  rw [ofDigits_eq_ofDigitChars, Nat.ofDigitChars_replicate_zero, Nat.mul_zero]

lemma isDigit_of_mem_digitsText {n : Nat} : ∀ c ∈ digitsText n, c.isDigit = true :=
  fun _ hc => Nat.isDigit_of_mem_toDigits (by decide) (by decide) hc

@[simp] lemma digitsText_ne_nil (n : Nat) : digitsText n ≠ [] := Nat.toDigits_ne_nil

lemma digitsText_zero : digitsText 0 = ['0'] := rfl

lemma head?_digitsText_ne {n : Nat} (hn : n ≠ 0) : (digitsText n).head? ≠ some '0' := by
  unfold digitsText
  induction n using Nat.strongRecOn with
  | ind n ih =>
    rw [Nat.toDigits_eq_if (by decide)]
    split
    · have hall : ∀ d < 10, d ≠ 0 → Nat.digitChar d ≠ '0' := by decide
      simpa using hall n ‹_› hn
    · have hhead := ih (n / 10) (by omega) (by omega)
      have hne : Nat.toDigits 10 (n / 10) ≠ [] := Nat.toDigits_ne_nil
      obtain ⟨c, cs, hcs⟩ := List.exists_cons_of_ne_nil hne
      rw [hcs] at hhead ⊢
      exact hhead

lemma digitsText_ne_zero_cons (n : Nat) (c : Char) (cs : List Char) :
    digitsText n ≠ '0' :: c :: cs := by
  intro h
  by_cases hn : n = 0
  · simp [hn, digitsText_zero] at h
  · exact head?_digitsText_ne hn (by rw [h]; rfl)

/-! ## Decimals that read back -/

/-- A decimal reads as a number of quanta if it is rounded to that number. -/
lemma ofDecimal_of_readsAs {d : Decimal} {quanta : Nat} (hfits : Binary64.Fits quanta)
    (h : d.readsAs quanta = true) (negative : Bool) :
    Binary64.ofDecimal negative d.digits d.exponent = .finite negative quanta hfits := by
  rw [Binary64.ofDecimal_eq_ofQuotient]
  refine Binary64.ofQuotient_of_nearestQuanta negative hfits ?_
  unfold readsAs at h
  rw [Binary64.ofDecimal_eq_ofQuotient] at h
  cases hd : Binary64.ofQuotient false (Binary64.decimalNum d.digits d.exponent)
      (Binary64.decimalDen d.exponent) with
  | nan => simp [hd] at h
  | infinite => simp [hd] at h
  | finite s q hq =>
    simp only [hd, beq_iff_eq] at h
    rw [Binary64.nearestQuanta_of_ofQuotient hd, h]

/-- Of two neighbours one is taken only if it reads back. -/
lemma readsAs_of_neighbour? {tie : Tie} {quanta num den : Nat} {e : Int} {d : Decimal}
    (h : neighbour? tie quanta e num den = some d) : d.readsAs quanta = true := by
  unfold neighbour? at h
  dsimp only at h
  split at h
  case h_1 hbelow _ => exact Option.some.inj h ▸ hbelow
  case h_2 _ habove => exact Option.some.inj h ▸ habove
  case h_3 => simp at h
  case h_4 hbelow habove =>
    -- both read back, and the nearer one is taken
    split at h
    · exact Option.some.inj h ▸ hbelow
    · exact Option.some.inj h ▸ habove
    · split at h
      · exact Option.some.inj h ▸ hbelow
      · exact Option.some.inj h ▸ habove

lemma readsAs_of_ofDecimal {d : Decimal} {s : Bool} {quanta : Nat} {hfits : Binary64.Fits quanta}
    (h : Binary64.ofDecimal false d.digits d.exponent = .finite s quanta hfits) :
    d.readsAs quanta = true := by
  unfold readsAs
  simp only [h, beq_self_eq_true]

lemma readsAs_exact {quanta : Nat} (hfits : Binary64.Fits quanta) :
    (exact quanta).readsAs quanta = true := by
  refine readsAs_of_ofDecimal (?_ : _ = Binary64.finite false quanta hfits)
  rw [Binary64.ofDecimal_eq_ofQuotient, ← Binary64.ofQuotient_of_fits false hfits]
  refine Binary64.ofQuotient_eq_of_mul_eq (Binary64.decimalDen_pos _) Nat.one_pos ?_
  unfold exact
  rw [Binary64.decimalNum_of_nonpos _ (by simp)]
  unfold Binary64.decimalDen
  generalize Binary64.quantumBits = e
  rw [Int.neg_neg, Int.toNat_natCast, Nat.mul_one, Nat.mul_assoc]
  exact congrArg (quanta * ·) (Nat.mul_pow 5 2 e).symm

/-- Leaving out trailing zeros moves them into the exponent. -/
lemma exists_dropZeros_shift (fuel : Nat) (d : Decimal) :
    ∃ k : Nat, d.digits = (dropZeros fuel d).digits * Nat.pow 10 k ∧
      (dropZeros fuel d).exponent = d.exponent + k := by
  induction fuel generalizing d with
  | zero => exact ⟨0, by simp [dropZeros], by simp [dropZeros]⟩
  | succ fuel ih =>
    unfold dropZeros
    split
    case isTrue hd =>
      obtain ⟨k, hdigits, hexponent⟩ := ih ⟨d.digits / 10, d.exponent + 1⟩
      simp only at hdigits hexponent
      refine ⟨k + 1, ?_, by omega⟩
      generalize (dropZeros fuel ⟨d.digits / 10, d.exponent + 1⟩).digits = left at hdigits ⊢
      calc d.digits = d.digits / 10 * 10 := by omega
        _ = left * 10 ^ k * 10 := congrArg (· * 10) hdigits
        _ = left * 10 ^ (k + 1) := by rw [Nat.pow_succ, Nat.mul_assoc]
    case isFalse => exact ⟨0, by simp, by simp⟩

lemma readsAs_getD {o : Option Decimal} {quanta : Nat} (hfits : Binary64.Fits quanta)
    (h : ∀ d, o = some d → d.readsAs quanta = true) :
    (o.getD (exact quanta)).readsAs quanta = true := by
  cases o with
  | none => exact readsAs_exact hfits
  | some d => exact h d rfl

/-- The shortest digits are those of a decimal that reads back, without trailing zeros. -/
lemma exists_shortest_eq (tie : Tie) {quanta : Nat} (hfits : Binary64.Fits quanta) :
    ∃ fuel d, shortest tie quanta = dropZeros fuel d ∧ d.readsAs quanta = true := by
  refine ⟨_, _, rfl, readsAs_getD hfits fun d hd => ?_⟩
  obtain ⟨n, -, hn⟩ := List.exists_of_findSome?_eq_some hd
  exact readsAs_of_neighbour? hn

/-- **The digits of a double read back.** -/
theorem ofDecimal_shortest (tie : Tie) (negative : Bool) {quanta : Nat}
    (hfits : Binary64.Fits quanta) :
    Binary64.ofDecimal negative (shortest tie quanta).digits (shortest tie quanta).exponent =
      .finite negative quanta hfits := by
  obtain ⟨fuel, d, hd, hreads⟩ := exists_shortest_eq tie hfits
  obtain ⟨k, hdigits, hexponent⟩ := exists_dropZeros_shift fuel d
  calc Binary64.ofDecimal negative (shortest tie quanta).digits (shortest tie quanta).exponent
      = .ofDecimal negative (dropZeros fuel d).digits (d.exponent + k) := by rw [hd, hexponent]
    _ = .ofDecimal negative ((dropZeros fuel d).digits * Nat.pow 10 k) d.exponent :=
        (Binary64.ofDecimal_mul_pow ..).symm
    _ = .ofDecimal negative d.digits d.exponent := by rw [hdigits]
    _ = .finite negative quanta hfits := ofDecimal_of_readsAs hfits hreads negative

lemma digits_shortest_ne_zero (tie : Tie) {quanta : Nat} (hfits : Binary64.Fits quanta)
    (hne : quanta ≠ 0) : (shortest tie quanta).digits ≠ 0 := by
  intro hzero
  have h := ofDecimal_shortest tie false hfits
  rw [hzero] at h
  unfold Binary64.ofDecimal Binary64.zero at h
  rw [if_pos rfl] at h
  exact hne (Binary64.finite.inj h).2.symm

end Decimal

end ComponentQuery
