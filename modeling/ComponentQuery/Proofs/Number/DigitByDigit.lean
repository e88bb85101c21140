import ComponentQuery.Proofs.Number.Grammar
import ComponentQuery.Proofs.Number.Nearest
import Mathlib.Data.Nat.Digits.Lemmas

/-!
# Whole numbers digit by digit

A whole number in base 16, 8 or 2 is read digit by digit, and rounded after each digit.  Here that
is compared with the double nearest to the whole number that the digits are.

As long as the number read so far is below `2 ^ 53`, nothing is rounded.  The first rounding after
that leaves 53 significant bits of a larger number, and then every further digit is less than half
of the last of these bits and is dropped.  So it matters only what the first rounding would have
done had it known what follows: nothing else, unless it was half way between two neighbours and
went down to the even one, although a digit that is not zero follows (`DropsTail`).

The main result is `baseLiteral_isNearest_iff`: a literal denotes the nearest double exactly if
that does not happen or the number is too large for a double anyway.
`numericLiteral?_not_nearest` is a literal where it happens.
-/

namespace ComponentQuery

/-- The number that digits of a base are, the most significant one first. -/
def wholeNumber (base : Nat) (ds : List Nat) : Nat := Nat.ofDigits base ds.reverse

/-- A number half way between two neighbours with 53 significant bits, `2 * s` and `2 * s + 1` times
a power of two, of which the lower one is even. -/
def Binary64.IsLowTie (n : Nat) : Prop := ∃ s e, 2 ^ 51 ≤ s ∧ s < 2 ^ 52 ∧ n = (4 * s + 1) * 2 ^ e

/-- Some digits make a number that is rounded down from half way, and those behind them are not all
zero. -/
def DropsTail (base : Nat) (ds : List Nat) : Prop :=
  ∃ front tail, ds = front ++ tail ∧ Binary64.IsLowTie (wholeNumber base front) ∧
    ∃ d ∈ tail, d ≠ 0

/-! ## Numbers and their digits -/

lemma wholeNumber_append (base : Nat) (front tail : List Nat) :
    wholeNumber base (front ++ tail) =
      wholeNumber base front * base ^ tail.length + wholeNumber base tail := by
  simp only [wholeNumber, List.reverse_append, Nat.ofDigits_append, List.length_reverse]
  ring

@[simp] lemma wholeNumber_nil (base : Nat) : wholeNumber base [] = 0 := rfl

@[simp] lemma wholeNumber_singleton (base d : Nat) : wholeNumber base [d] = d := by
  simp [wholeNumber]

lemma wholeNumber_lt {base : Nat} (hbase : 1 < base) {ds : List Nat} (hds : ∀ d ∈ ds, d < base) :
    wholeNumber base ds < base ^ ds.length := by
  have h := Nat.ofDigits_lt_base_pow_length hbase (l := ds.reverse) fun d hd =>
    hds d (List.mem_reverse.1 hd)
  simpa only [wholeNumber, List.length_reverse] using h

lemma wholeNumber_pos {base : Nat} (hbase : 0 < base) {ds : List Nat} (h : ∃ d ∈ ds, d ≠ 0) :
    0 < wholeNumber base ds := by
  obtain ⟨d, hd, hne⟩ := h
  obtain ⟨front, tail, rfl⟩ := List.append_of_mem hd
  rw [List.append_cons, wholeNumber_append, wholeNumber_append]
  have hpos : 0 < d * base ^ tail.length :=
    Nat.mul_pos (Nat.pos_of_ne_zero hne) (Nat.pow_pos hbase)
  simp only [wholeNumber_singleton, List.length_singleton, Nat.add_mul]
  omega

/-- Zeros behind a number half way between two neighbours leave it there, in a base that is a power
of two. -/
lemma Binary64.IsLowTie.mul_pow {n : Nat} (h : IsLowTie n) (k : Nat) : IsLowTie (n * 2 ^ k) := by
  obtain ⟨s, e, hlow, hhigh, rfl⟩ := h
  exact ⟨s, e + k, hlow, hhigh, by rw [Nat.pow_add, Nat.mul_assoc]⟩

lemma wholeNumber_eq_zero {base : Nat} {ds : List Nat} (h : ∀ d ∈ ds, d = 0) :
    wholeNumber base ds = 0 := by
  rw [List.eq_replicate_of_mem h, wholeNumber, List.reverse_replicate,
    Nat.ofDigits_replicate_zero]

/-- With one more digit, a tail is dropped if one was dropped before, or if the digit is
dropped. -/
lemma dropsTail_snoc_iff {k d : Nat} {ds : List Nat} :
    DropsTail (2 ^ k) (ds ++ [d]) ↔
      DropsTail (2 ^ k) ds ∨ (Binary64.IsLowTie (wholeNumber (2 ^ k) ds) ∧ d ≠ 0) := by
  constructor
  · rintro ⟨front, tail, hsplit, htie, x, hx, hne⟩
    rcases List.eq_nil_or_concat tail with rfl | ⟨tail, y, rfl⟩
    · simp at hx
    · rw [List.concat_eq_append, ← List.append_assoc] at hsplit
      obtain ⟨rfl, hd⟩ := List.append_inj' hsplit rfl
      obtain rfl := List.singleton_inj.1 hd
      by_cases hall : ∃ x ∈ tail, x ≠ 0
      · exact .inl ⟨front, tail, rfl, htie, hall⟩
      · -- The digits in between are zeros, so the number before the last digit is half way too.
        have hzero : ∀ x ∈ tail, x = 0 := by simpa using hall
        refine .inr ⟨?_, ?_⟩
        · rw [wholeNumber_append, wholeNumber_eq_zero hzero, Nat.add_zero, ← Nat.pow_mul]
          exact htie.mul_pow _
        · rcases List.mem_append.1 (List.concat_eq_append ▸ hx) with hx | hx
          · exact absurd (hzero x hx) hne
          · exact List.mem_singleton.1 hx ▸ hne
  · rintro (⟨front, tail, rfl, htie, x, hx, hne⟩ | ⟨htie, hd⟩)
    · exact ⟨front, tail ++ [d], List.append_assoc .., htie, x, List.mem_append_left _ hx, hne⟩
    · exact ⟨ds, [d], rfl, htie, d, List.mem_singleton_self d, hd⟩

/-- Where a tail is dropped, there is a first place at which it is. -/
lemma DropsTail.exists_first {k : Nat} {ds : List Nat} (h : DropsTail (2 ^ k) ds) :
    ∃ front tail, ds = front ++ tail ∧ ¬ DropsTail (2 ^ k) front ∧
      Binary64.IsLowTie (wholeNumber (2 ^ k) front) ∧ ∃ d ∈ tail, d ≠ 0 := by
  induction ds using List.reverseRecOn with
  | nil =>
    obtain ⟨front, tail, hnil, -, x, hx, -⟩ := h
    obtain ⟨-, rfl⟩ := List.append_eq_nil_iff.1 hnil.symm
    simp at hx
  | append_singleton ds d ih =>
    by_cases hds : DropsTail (2 ^ k) ds
    · obtain ⟨front, tail, rfl, hfront, htie, x, hx, hne⟩ := ih hds
      exact ⟨front, tail ++ [d], List.append_assoc .., hfront, htie, x,
        List.mem_append_left _ hx, hne⟩
    · obtain ⟨htie, hd⟩ := (dropsTail_snoc_iff.1 h).resolve_left hds
      exact ⟨ds, [d], rfl, hds, htie, d, List.mem_singleton_self d, hd⟩

/-! ## Rounding whole numbers -/

namespace Binary64

/-- A whole number, rounded to 53 significant bits. -/
def roundWhole (n : Nat) : Nat := nearestQuanta n 1

lemma precise_roundWhole (n : Nat) : Precise (roundWhole n) := precise_nearestQuanta n 1

lemma roundWhole_of_le {n : Nat} (h : n ≤ 2 ^ 53) : roundWhole n = n :=
  nearestQuanta_of_precise (by simpa using precise_mul_pow n 0 h)

/-- A number with more than 52 bits is a significand of 53 bits, shifted, and a remainder. -/
lemma exists_significand {n : Nat} (h : 2 ^ 52 ≤ n) :
    ∃ s e m, 2 ^ 52 ≤ s ∧ s < 2 ^ 53 ∧ m < 2 ^ e ∧ n = s * 2 ^ e + m := by
  have hne : n ≠ 0 := by omega
  have hlog : 52 ≤ Nat.log2 n := (Nat.le_log2 hne).2 h
  refine ⟨n / 2 ^ (Nat.log2 n - 52), Nat.log2 n - 52, n % 2 ^ (Nat.log2 n - 52), ?_, ?_,
    Nat.mod_lt _ (Nat.two_pow_pos _), (Nat.div_add_mod' ..).symm⟩
  · rw [Nat.le_div_iff_mul_le (Nat.two_pow_pos _), ← Nat.pow_add, Nat.add_sub_cancel' hlog]
    exact Nat.log2_self_le hne
  · refine Nat.div_lt_of_lt_mul ?_
    calc n < 2 ^ (Nat.log2 n + 1) := Nat.lt_log2_self
      _ = 2 ^ (Nat.log2 n - 52 + 53) := by rw [show Nat.log2 n - 52 + 53 = Nat.log2 n + 1 by omega]
      _ = 2 ^ (Nat.log2 n - 52) * 2 ^ 53 := Nat.pow_add ..

/-- Rounding a significand and a remainder: down, up, and from half way to the even neighbour. -/
lemma roundWhole_cases {s e m : Nat} (hlow : 2 ^ 52 ≤ s) (hhigh : s < 2 ^ 53) (hm : m < 2 ^ e) :
    (2 * m < 2 ^ e ∧ roundWhole (s * 2 ^ e + m) = s * 2 ^ e) ∨
      (2 ^ e < 2 * m ∧ roundWhole (s * 2 ^ e + m) = (s + 1) * 2 ^ e) ∨
      (2 * m = 2 ^ e ∧ s % 2 = 0 ∧ roundWhole (s * 2 ^ e + m) = s * 2 ^ e) ∨
      (2 * m = 2 ^ e ∧ s % 2 = 1 ∧ roundWhole (s * 2 ^ e + m) = (s + 1) * 2 ^ e) := by
  have hpos := Nat.two_pow_pos e
  have hlog : Nat.log2 (s * 2 ^ e + m) = 52 + e := by
    rw [Nat.log2_eq_iff (by positivity)]
    constructor
    · rw [Nat.pow_add]
      exact Nat.le_add_right_of_le (Nat.mul_le_mul_right _ hlow)
    · calc s * 2 ^ e + m < s * 2 ^ e + 2 ^ e := Nat.add_lt_add_left hm _
        _ = (s + 1) * 2 ^ e := (Nat.succ_mul ..).symm
        _ ≤ 2 ^ 53 * 2 ^ e := Nat.mul_le_mul_right _ hhigh
        _ = 2 ^ (52 + e + 1) := by rw [← Nat.pow_add, Nat.add_right_comm]
  have hunit : unit (s * 2 ^ e + m) = 2 ^ e := by
    rw [unit, hlog, Nat.add_sub_cancel_left]
    rfl
  have hdiv : (s * 2 ^ e + m) / 2 ^ e = s := by
    rw [Nat.add_comm, Nat.add_mul_div_right _ _ hpos, Nat.div_eq_of_lt hm, Nat.zero_add]
  have hmod : (s * 2 ^ e + m) % 2 ^ e = m := by
    rw [Nat.add_comm, Nat.add_mul_mod_self_right, Nat.mod_eq_of_lt hm]
  have hcases := roundQuotient_cases (s * 2 ^ e + m) (2 ^ e)
  rw [hdiv, hmod] at hcases
  rw [roundWhole, nearestQuanta_one, hunit]
  rcases hcases with ⟨h, hr⟩ | ⟨h, hr⟩ | ⟨h, hs, hr⟩ | ⟨h, hs, hr⟩ <;> rw [hr]
  · exact .inl ⟨h, rfl⟩
  · exact .inr (.inl ⟨h, rfl⟩)
  · exact .inr (.inr (.inl ⟨h, hs, rfl⟩))
  · exact .inr (.inr (.inr ⟨h, hs, rfl⟩))

lemma roundWhole_mul_pow (n k : Nat) : roundWhole (n * 2 ^ k) = roundWhole n * 2 ^ k := by
  rcases Nat.lt_or_ge n (2 ^ 52) with hlt | hge
  · have hle : n ≤ Nat.pow 2 53 := Nat.le_trans (Nat.le_of_lt hlt) (by decide)
    rw [roundWhole_of_le (n := n) hle]
    exact nearestQuanta_of_precise (precise_mul_pow n k hle)
  · have hne : n ≠ 0 := by omega
    have hpos := Nat.two_pow_pos k
    have hlog : Nat.log2 (n * 2 ^ k) = Nat.log2 n + k := by
      rw [Nat.log2_eq_iff (Nat.mul_ne_zero hne (Nat.ne_of_gt hpos)), Nat.pow_add,
        Nat.add_right_comm, Nat.pow_add]
      exact ⟨Nat.mul_le_mul_right _ (Nat.log2_self_le hne),
        Nat.mul_lt_mul_of_pos_right Nat.lt_log2_self hpos⟩
    have hunit : unit (n * 2 ^ k) = unit n * 2 ^ k := by
      have hlow : 52 ≤ Nat.log2 n := (Nat.le_log2 hne).2 hge
      rw [unit, unit, hlog, Nat.sub_add_comm hlow]
      exact Nat.pow_add ..
    calc roundWhole (n * 2 ^ k)
        = roundQuotient (n * 2 ^ k) (unit n * 2 ^ k) * (unit n * 2 ^ k) := by
          rw [roundWhole, nearestQuanta_one, hunit]
      _ = roundQuotient n (unit n) * unit n * 2 ^ k := by
          rw [roundQuotient_mul hpos, Nat.mul_assoc]
      _ = roundWhole n * 2 ^ k := by rw [roundWhole, nearestQuanta_one]

/-! ## One more digit -/

/-- To a number that is rounded already and not below `2 ^ 53`, a digit adds too little to be
noticed. -/
lemma roundWhole_add_digit {a k d : Nat} (ha : Precise a) (hge : 2 ^ 53 ≤ a) (hd : d < 2 ^ k) :
    roundWhole (a * 2 ^ k + d) = a * 2 ^ k := by
  obtain ⟨s, e, m, hlow, hhigh, hm, rfl⟩ := exists_significand (Nat.le_trans (by decide) hge)
  have hzero : m = 0 := by
    have hself : roundWhole (s * 2 ^ e + m) = s * 2 ^ e + m := nearestQuanta_of_precise ha
    have hup : (s + 1) * 2 ^ e = s * 2 ^ e + 2 ^ e := Nat.succ_mul ..
    have hcases := roundWhole_cases hlow hhigh hm
    omega
  subst hzero
  -- The digit is less than half of the last bit, as that bit is not the lowest one.
  have he : 1 ≤ e := by
    by_contra hlt
    obtain rfl : e = 0 := by omega
    omega
  obtain ⟨e, rfl⟩ := Nat.exists_eq_add_of_le he
  have hshift : (s * 2 ^ (1 + e) + 0) * 2 ^ k = s * 2 ^ (1 + e + k) := by ring
  have hhalf : 2 * 2 ^ k ≤ 2 ^ (1 + e + k) := by
    rw [show 1 + e + k = 1 + (k + e) by omega, Nat.pow_add, Nat.pow_add 2 k e]
    have := Nat.le_mul_of_pos_right (2 ^ k) (Nat.two_pow_pos e)
    omega
  have hcases := roundWhole_cases hlow hhigh (show d < 2 ^ (1 + e + k) by omega)
  rw [hshift]
  omega

lemma IsLowTie.roundWhole_eq {s e : Nat} (hlow : 2 ^ 51 ≤ s) (hhigh : s < 2 ^ 52) :
    roundWhole ((4 * s + 1) * 2 ^ e) = 2 * s * 2 ^ (e + 1) := by
  have hpow : 2 ^ (e + 1) = 2 * 2 ^ e := Nat.pow_succ' ..
  have hpos := Nat.two_pow_pos e
  have hsplit : (4 * s + 1) * 2 ^ e = 2 * s * 2 ^ (e + 1) + 2 ^ e := by
    rw [hpow]
    ring
  have hcases := roundWhole_cases (s := 2 * s) (e := e + 1) (m := 2 ^ e) (by omega) (by omega)
    (by omega)
  rw [hsplit]
  omega

/-- If something that is not zero follows, it is to be rounded up instead. -/
lemma IsLowTie.roundWhole_add {s e m j : Nat} (hlow : 2 ^ 51 ≤ s) (hhigh : s < 2 ^ 52)
    (hm : m < 2 ^ j) (hpos : 0 < m) :
    roundWhole ((4 * s + 1) * 2 ^ e * 2 ^ j + m) = (2 * s + 1) * 2 ^ (e + j + 1) := by
  have hpow : 2 ^ (e + j + 1) = 2 * 2 ^ (e + j) := Nat.pow_succ' ..
  have hle : 2 ^ j ≤ 2 ^ (e + j) := Nat.pow_le_pow_right (by decide) (by omega)
  have hsplit : (4 * s + 1) * 2 ^ e * 2 ^ j + m =
      2 * s * 2 ^ (e + j + 1) + (2 ^ (e + j) + m) := by
    rw [hpow, Nat.pow_add]
    ring
  have hcases := roundWhole_cases (s := 2 * s) (e := e + j + 1) (m := 2 ^ (e + j) + m) (by omega)
    (by omega) (by omega)
  rw [hsplit]
  omega

lemma roundWhole_roundWhole (n : Nat) : roundWhole (roundWhole n) = roundWhole n :=
  nearestQuanta_of_precise (precise_roundWhole n)

/-- A digit behind a number leaves the remainder on its side of half way, so that rounding goes the
same way with the digit as without it.  Only of a number half way above an even neighbour is that
not so. -/
lemma roundWhole_significand_add {s e m k d : Nat} (hlow : 2 ^ 52 ≤ s) (hhigh : s < 2 ^ 53)
    (hm : m < 2 ^ (e + 1)) (hd : d < 2 ^ k) (hodd : m = 2 ^ e → s % 2 = 1) :
    roundWhole ((s * 2 ^ (e + 1) + m) * 2 ^ k + d) = roundWhole (s * 2 ^ (e + 1) + m) * 2 ^ k := by
  have hshift : (s * 2 ^ (e + 1) + m) * 2 ^ k + d = s * 2 ^ (e + 1 + k) + (m * 2 ^ k + d) := by
    ring
  have hpow : 2 ^ (e + 1) = 2 * 2 ^ e := Nat.pow_succ' ..
  have hpow' : 2 ^ (e + 1 + k) = 2 * (2 ^ e * 2 ^ k) := by rw [Nat.pow_add, hpow, Nat.mul_assoc]
  have hm' : m * 2 ^ k + d < 2 ^ (e + 1 + k) := by
    have := Nat.mul_le_mul_right (2 ^ k) (Nat.succ_le_of_lt hm)
    rw [Nat.succ_mul, ← Nat.pow_add] at this
    omega
  have hcases := roundWhole_cases hlow hhigh hm
  have hcases' := roundWhole_cases hlow hhigh hm'
  have hdown : s * 2 ^ (e + 1 + k) = s * 2 ^ (e + 1) * 2 ^ k := by rw [Nat.pow_add, Nat.mul_assoc]
  have hup : (s + 1) * 2 ^ (e + 1 + k) = (s + 1) * 2 ^ (e + 1) * 2 ^ k := by
    rw [Nat.pow_add, Nat.mul_assoc]
  rw [hshift]
  rcases Nat.lt_trichotomy m (2 ^ e) with hside | hside | hside
  · have hmul := Nat.mul_le_mul_right (2 ^ k) (Nat.succ_le_of_lt hside)
    rw [Nat.succ_mul] at hmul
    have hr : roundWhole (s * 2 ^ (e + 1) + m) = s * 2 ^ (e + 1) := by omega
    rw [hr]
    omega
  · have hs := hodd hside
    have hr : roundWhole (s * 2 ^ (e + 1) + m) = (s + 1) * 2 ^ (e + 1) := by omega
    rw [hr]
    rw [hside] at hcases' ⊢
    omega
  · have hmul := Nat.mul_le_mul_right (2 ^ k) (Nat.succ_le_of_lt hside)
    rw [Nat.succ_mul] at hmul
    have hr : roundWhole (s * 2 ^ (e + 1) + m) = (s + 1) * 2 ^ (e + 1) := by omega
    rw [hr]
    omega

/-- Rounding before a digit and after it is rounding after it only, unless the digit would have
turned the scale. -/
lemma roundWhole_mul_add {n k d : Nat} (hd : d < 2 ^ k) (h : ¬ (IsLowTie n ∧ d ≠ 0)) :
    roundWhole (roundWhole n * 2 ^ k + d) = roundWhole (n * 2 ^ k + d) := by
  rcases Nat.eq_zero_or_pos d with rfl | hpos
  · calc roundWhole (roundWhole n * 2 ^ k)
        = roundWhole (roundWhole n) * 2 ^ k := roundWhole_mul_pow _ k
      _ = roundWhole n * 2 ^ k := by rw [roundWhole_roundWhole]
      _ = roundWhole (n * 2 ^ k) := (roundWhole_mul_pow n k).symm
  rcases Nat.lt_or_ge n (2 ^ 53) with hlt | hge
  · rw [roundWhole_of_le (n := n) (Nat.le_of_lt hlt)]
  obtain ⟨s, e, m, hlow, hhigh, hm, rfl⟩ := exists_significand (Nat.le_trans (by decide) hge)
  obtain ⟨e, rfl⟩ : ∃ e', e = e' + 1 := Nat.exists_eq_add_one.2 (by
    by_contra he
    obtain rfl : e = 0 := by omega
    omega)
  have hpow : 2 ^ (e + 1) = 2 * 2 ^ e := Nat.pow_succ' ..
  have hodd : m = 2 ^ e → s % 2 = 1 := by
    rintro rfl
    by_contra heven
    refine h ⟨⟨s / 2, e, by omega, by omega, ?_⟩, Nat.ne_of_gt hpos⟩
    rw [hpow, show 4 * (s / 2) + 1 = 2 * s + 1 by omega]
    ring
  have hbound : 2 ^ 53 ≤ roundWhole (s * 2 ^ (e + 1) + m) := by
    have hcases := roundWhole_cases hlow hhigh hm
    have hup : (s + 1) * 2 ^ (e + 1) = s * 2 ^ (e + 1) + 2 ^ (e + 1) := Nat.succ_mul ..
    have h₁ := Nat.mul_le_mul hlow (Nat.two_pow_pos e)
    have h₂ : s * 2 ^ (e + 1) = 2 * (s * 2 ^ e) := by rw [hpow]; ring
    omega
  -- Both sides are what rounding makes of the number before the digit.
  calc roundWhole (roundWhole (s * 2 ^ (e + 1) + m) * 2 ^ k + d)
      = roundWhole (s * 2 ^ (e + 1) + m) * 2 ^ k :=
        roundWhole_add_digit (precise_roundWhole _) hbound hd
    _ = roundWhole ((s * 2 ^ (e + 1) + m) * 2 ^ k + d) :=
        (roundWhole_significand_add hlow hhigh hm hd hodd).symm

/-! ## All digits -/

/-- Digits taken one after the other, with a rounding after each. -/
def foldWhole (base : Nat) (ds : List Nat) : Nat :=
  ds.foldl (fun n d => roundWhole (n * base + d)) 0

@[simp] lemma foldWhole_snoc (base : Nat) (ds : List Nat) (d : Nat) :
    foldWhole base (ds ++ [d]) = roundWhole (foldWhole base ds * base + d) := by
  simp [foldWhole]

lemma precise_foldWhole (base : Nat) (ds : List Nat) : Precise (foldWhole base ds) := by
  induction ds using List.reverseRecOn with
  | nil => exact fits_zero.1
  | append_singleton ds d => exact foldWhole_snoc base ds d ▸ precise_roundWhole _

/-- Unless a tail is dropped, all roundings together are one. -/
lemma foldWhole_of_not_dropsTail {k : Nat} {ds : List Nat} (hds : ∀ d ∈ ds, d < 2 ^ k)
    (h : ¬ DropsTail (2 ^ k) ds) : foldWhole (2 ^ k) ds = roundWhole (wholeNumber (2 ^ k) ds) := by
  induction ds using List.reverseRecOn with
  | nil => exact (roundWhole_of_le (Nat.zero_le _)).symm
  | append_singleton ds d ih =>
    obtain ⟨hdrops, htie⟩ := not_or.1 (mt dropsTail_snoc_iff.2 h)
    have ih := ih (fun x hx => hds x (List.mem_append_left _ hx)) hdrops
    calc foldWhole (2 ^ k) (ds ++ [d])
        = roundWhole (roundWhole (wholeNumber (2 ^ k) ds) * 2 ^ k + d) := by
          rw [foldWhole_snoc, ih]
      _ = roundWhole (wholeNumber (2 ^ k) ds * 2 ^ k + d) :=
          roundWhole_mul_add (hds d (by simp)) htie
      _ = roundWhole (wholeNumber (2 ^ k) (ds ++ [d])) := by
          rw [wholeNumber_append, wholeNumber_singleton, List.length_singleton, Nat.pow_one]

/-- Behind digits that make at least `2 ^ 53`, all digits count as zeros. -/
lemma foldWhole_append {k : Nat} {front tail : List Nat} (htail : ∀ d ∈ tail, d < 2 ^ k)
    (h : 2 ^ 53 ≤ foldWhole (2 ^ k) front) :
    foldWhole (2 ^ k) (front ++ tail) = foldWhole (2 ^ k) front * 2 ^ (k * tail.length) := by
  induction tail using List.reverseRecOn with
  | nil => simp
  | append_singleton tail d ih =>
    have ih := ih fun x hx => htail x (List.mem_append_left _ hx)
    have hge : 2 ^ 53 ≤ foldWhole (2 ^ k) (front ++ tail) :=
      ih ▸ Nat.le_trans h (Nat.le_mul_of_pos_right _ (Nat.two_pow_pos _))
    calc foldWhole (2 ^ k) (front ++ (tail ++ [d]))
        = roundWhole (foldWhole (2 ^ k) (front ++ tail) * 2 ^ k + d) := by
          rw [← List.append_assoc, foldWhole_snoc]
      _ = foldWhole (2 ^ k) (front ++ tail) * 2 ^ k :=
          roundWhole_add_digit (precise_foldWhole ..) hge (htail d (by simp))
      _ = foldWhole (2 ^ k) front * 2 ^ (k * tail.length + k) := by
          rw [ih, Nat.mul_assoc, ← Nat.pow_add]
      _ = foldWhole (2 ^ k) front * 2 ^ (k * (tail ++ [d]).length) := by
          rw [List.length_append, List.length_singleton, Nat.mul_succ]

/-! ## Doubles -/

lemma ofInt_natCast (n : Nat) : ofInt n = ofQuotient false (n * Nat.pow 2 quantumBits) 1 := by
  have hsign : decide ((n : Int) < 0) = false := by simp
  rw [ofInt, hsign, Int.natAbs_natCast]

lemma ofInt_roundWhole (n : Nat) : ofInt (roundWhole n) = ofInt n := by
  rw [ofInt_natCast, ofInt_natCast]
  refine ofQuotient_congr ?_
  generalize quantumBits = e
  calc roundWhole (roundWhole n * 2 ^ e)
      = roundWhole (roundWhole n) * 2 ^ e := roundWhole_mul_pow _ e
    _ = roundWhole n * 2 ^ e := by rw [roundWhole_roundWhole]
    _ = roundWhole (n * 2 ^ e) := (roundWhole_mul_pow n e).symm

lemma overflow_le_iff {n : Nat} : overflow ≤ n * Nat.pow 2 quantumBits ↔ 2 ^ 1024 ≤ n := by
  have hsplit : overflow = 2 ^ 1024 * Nat.pow 2 quantumBits := by decide +kernel
  have hpos := pow_two_pos quantumBits
  rw [hsplit]
  generalize Nat.pow 2 quantumBits = u at hpos
  exact Nat.mul_le_mul_right_iff hpos

lemma ofInt_of_le {n : Nat} (h : 2 ^ 1024 ≤ n) : ofInt n = .infinite false := by
  have hle := overflow_le_iff.2 h
  rw [ofInt_natCast]
  generalize n * Nat.pow 2 quantumBits = q at hle
  exact ofQuotient_of_overflow_le Nat.one_pos (by rwa [Nat.mul_one])

lemma Precise.mul_pow {n : Nat} (h : Precise n) (k : Nat) : Precise (n * Nat.pow 2 k) := by
  have hself : roundWhole n = n := nearestQuanta_of_precise h
  have hround := precise_roundWhole (n * 2 ^ k)
  rwa [roundWhole_mul_pow, hself] at hround

lemma exists_ofInt_eq_finite_of_precise {n : Nat} (h : Precise n) (hlt : n < 2 ^ 1024) :
    ∃ hfits, ofInt n = .finite false (n * Nat.pow 2 quantumBits) hfits := by
  have hfits : Fits (n * Nat.pow 2 quantumBits) :=
    ⟨h.mul_pow quantumBits, Nat.lt_of_not_le fun hle => Nat.not_le.2 hlt (overflow_le_iff.1 hle)⟩
  exact ⟨hfits, by rw [ofInt_natCast, ofQuotient_of_fits false hfits]⟩

lemma finite_mul_finite {s t : Bool} {q r : Nat} (hq : Fits q) (hr : Fits r) :
    finite s q hq * finite t r hr = ofQuotient (s != t) (q * r) (Nat.pow 2 quantumBits) := by
  change mul _ _ = _
  rw [mul]

lemma infinite_mul_finite {s t : Bool} {r : Nat} (hr : Fits r) (hne : r ≠ 0) :
    infinite s * finite t r hr = infinite (s != t) := if_neg hne

lemma infinite_add_finite {s t : Bool} {r : Nat} (hr : Fits r) :
    infinite s + finite t r hr = infinite s := rfl

/-- The sum of two doubles that are not negative is rounded once. -/
lemma finite_add_finite {q r : Nat} (hq : Fits q) (hr : Fits r) :
    finite false q hq + finite false r hr = ofQuotient false (q + r) 1 := by
  have hsum : signedQuanta false q + signedQuanta false r = (q + r : Nat) := by
    simp [signedQuanta]
  have hadd : finite false q hq + finite false r hr =
      if signedQuanta false q + signedQuanta false r = 0 then zero (false && false)
      else ofQuotient (signedQuanta false q + signedQuanta false r < 0)
        (signedQuanta false q + signedQuanta false r).natAbs 1 := by
    change add _ _ = _
    rw [add]
  rw [hadd, hsum, Int.natAbs_natCast]
  split_ifs with hzero
  · rw [Int.natCast_eq_zero.1 hzero, ofQuotient_zero _ Nat.one_pos, Bool.and_false]
  · have hsign : decide (((q + r : Nat) : Int) < 0) = false :=
      decide_eq_false (Int.not_lt.2 (Int.natCast_nonneg _))
    rw [hsign]

/-- The product with a base is exact, or infinite. -/
lemma ofInt_mul {n k : Nat} (hn : Precise n) (hk : 2 ^ k ≤ 16) :
    ofInt n * ofInt (2 ^ k : Nat) = ofInt (n * 2 ^ k : Nat) := by
  obtain ⟨hbase, hbase_eq⟩ := exists_ofInt_eq_finite hk
  have hpos := Nat.two_pow_pos k
  rw [hbase_eq]
  rcases Nat.lt_or_ge n (2 ^ 1024) with hlt | hge
  · obtain ⟨hfits, hn_eq⟩ := exists_ofInt_eq_finite_of_precise hn hlt
    rw [hn_eq, ofInt_natCast, finite_mul_finite, bne_self_eq_false]
    refine ofQuotient_eq_of_mul_eq (pow_two_pos _) Nat.one_pos ?_
    generalize Nat.pow 2 quantumBits = u
    ring
  · have hne : 2 ^ k * Nat.pow 2 quantumBits ≠ 0 :=
      Nat.mul_ne_zero (Nat.ne_of_gt hpos) (Nat.ne_of_gt (pow_two_pos quantumBits))
    have hge' : 2 ^ 1024 ≤ n * 2 ^ k := Nat.le_trans hge (Nat.le_mul_of_pos_right _ hpos)
    calc ofInt n * .finite false (2 ^ k * Nat.pow 2 quantumBits) hbase
      _ = .infinite false * .finite false (2 ^ k * Nat.pow 2 quantumBits) hbase := by
        rw [ofInt_of_le hge]
      _ = .infinite false := by rw [infinite_mul_finite _ hne, bne_self_eq_false]
      _ = ofInt (n * 2 ^ k : Nat) := (ofInt_of_le hge').symm

/-- The sum with a digit is rounded once. -/
lemma ofInt_add {n d : Nat} (hn : Precise n) (hd : d ≤ 16) :
    ofInt n + ofInt d = ofInt (n + d : Nat) := by
  obtain ⟨hdigit, hdigit_eq⟩ := exists_ofInt_eq_finite hd
  rw [hdigit_eq]
  rcases Nat.lt_or_ge n (2 ^ 1024) with hlt | hge
  · obtain ⟨hfits, hn_eq⟩ := exists_ofInt_eq_finite_of_precise hn hlt
    rw [hn_eq, ofInt_natCast, finite_add_finite, Nat.add_mul]
  · rw [ofInt_of_le hge, ofInt_of_le (Nat.le_add_right_of_le hge), infinite_add_finite]

/-- The digits of a literal make the double that is made of them as of whole numbers. -/
lemma foldDigits_eq_ofInt {k : Nat} (hk : 2 ^ k ≤ 16) {ds : List Nat}
    (hds : ∀ d ∈ ds, d < 2 ^ k) :
    foldDigits (2 ^ k) (.zero false) ds = ofInt (foldWhole (2 ^ k) ds) := by
  induction ds using List.reverseRecOn with
  | nil =>
    rw [foldWhole, List.foldl_nil, ofInt_natCast, Nat.zero_mul, ofQuotient_zero _ Nat.one_pos]
    rfl
  | append_singleton ds d ih =>
    have ih := ih fun x hx => hds x (List.mem_append_left _ hx)
    have hprecise := precise_foldWhole (2 ^ k) ds
    have hproduct : Precise (foldWhole (2 ^ k) ds * 2 ^ k) := hprecise.mul_pow k
    have hd : d ≤ 16 := Nat.le_trans (Nat.le_of_lt (hds d (by simp))) hk
    calc foldDigits (2 ^ k) (.zero false) (ds ++ [d])
        = foldDigits (2 ^ k) (.zero false) ds * ofInt (2 ^ k : Nat) + ofInt d := by
          simp only [foldDigits, List.foldl_append, List.foldl_cons, List.foldl_nil]
      _ = ofInt (foldWhole (2 ^ k) ds * 2 ^ k : Nat) + ofInt d := by
          rw [ih, ofInt_mul hprecise hk]
      _ = ofInt (foldWhole (2 ^ k) ds * 2 ^ k + d : Nat) := ofInt_add hproduct hd
      _ = ofInt (foldWhole (2 ^ k) (ds ++ [d])) := by rw [foldWhole_snoc, ofInt_roundWhole]

/-- Two whole numbers are the same double if they are rounded to the same number or are both too
large. -/
lemma ofInt_eq_iff {m n : Nat} (hm : m < 2 ^ 1024) (hprecise : Precise m) :
    ofInt m = ofInt n ↔ m = roundWhole n := by
  obtain ⟨hfits, hm_eq⟩ := exists_ofInt_eq_finite_of_precise hprecise hm
  rw [← ofInt_roundWhole n, hm_eq]
  constructor
  · intro h
    rcases Nat.lt_or_ge (roundWhole n) (2 ^ 1024) with hlt | hge
    · obtain ⟨hfits', hn_eq⟩ := exists_ofInt_eq_finite_of_precise (precise_roundWhole n) hlt
      rw [hn_eq] at h
      exact Nat.eq_of_mul_eq_mul_right (pow_two_pos _) (Binary64.finite.inj h).2
    · rw [ofInt_of_le hge] at h
      exact absurd h (by simp)
  · rintro rfl
    exact hm_eq.symm

lemma IsLowTie.roundWhole_le {n : Nat} (h : IsLowTie n) : roundWhole n ≤ n := by
  obtain ⟨s, e, hlow, hhigh, rfl⟩ := h
  calc roundWhole ((4 * s + 1) * 2 ^ e)
      = 2 * s * 2 ^ (e + 1) := IsLowTie.roundWhole_eq hlow hhigh
    _ ≤ 2 * s * 2 ^ (e + 1) + 2 ^ e := Nat.le_add_right ..
    _ = (4 * s + 1) * 2 ^ e := by ring

/-- Whatever follows a number half way above an even neighbour, the number is to be rounded up. -/
lemma IsLowTie.lt_roundWhole {n m j : Nat} (h : IsLowTie n) (hm : m < 2 ^ j) (hpos : 0 < m) :
    roundWhole n * 2 ^ j < roundWhole (n * 2 ^ j + m) := by
  obtain ⟨s, e, hlow, hhigh, rfl⟩ := h
  calc roundWhole ((4 * s + 1) * 2 ^ e) * 2 ^ j
      = 2 * s * 2 ^ (e + j + 1) := by
        rw [IsLowTie.roundWhole_eq hlow hhigh, Nat.mul_assoc, ← Nat.pow_add, Nat.add_right_comm]
    _ < (2 * s + 1) * 2 ^ (e + j + 1) :=
        Nat.mul_lt_mul_of_pos_right (Nat.lt_succ_self _) (Nat.two_pow_pos _)
    _ = roundWhole ((4 * s + 1) * 2 ^ e * 2 ^ j + m) :=
        (IsLowTie.roundWhole_add hlow hhigh hm hpos).symm

/-- If the number is too large, so is the neighbour below. -/
lemma IsLowTie.pow_le_roundWhole {n m j : Nat} (h : IsLowTie n) (hm : m < 2 ^ j)
    (hlarge : 2 ^ 1024 ≤ n * 2 ^ j + m) : 2 ^ 1024 ≤ roundWhole n * 2 ^ j := by
  obtain ⟨s, e, hlow, hhigh, rfl⟩ := h
  have hexp : 970 < e + j := by
    refine Nat.lt_of_not_le fun hle => Nat.not_lt.2 hlarge ?_
    have hj : 2 ^ j ≤ 2 ^ (e + j) := Nat.pow_le_pow_right (by decide) (Nat.le_add_left ..)
    calc (4 * s + 1) * 2 ^ e * 2 ^ j + m
        < (4 * s + 1) * 2 ^ (e + j) + 2 ^ (e + j) := by rw [Nat.mul_assoc, ← Nat.pow_add]; omega
      _ = (4 * s + 2) * 2 ^ (e + j) := (Nat.succ_mul ..).symm
      _ ≤ 2 ^ 54 * 2 ^ 970 :=
        Nat.mul_le_mul (by omega) (Nat.pow_le_pow_right Nat.two_pos hle)
      _ = 2 ^ 1024 := by decide +kernel
  rw [IsLowTie.roundWhole_eq hlow hhigh]
  calc 2 ^ 1024 = 2 ^ 52 * 2 ^ 972 := by decide +kernel
    _ ≤ 2 * s * 2 ^ (e + 1 + j) :=
      Nat.mul_le_mul (by omega) (Nat.pow_le_pow_right Nat.two_pos (by omega))
    _ = 2 * s * 2 ^ (e + 1) * 2 ^ j := by rw [Nat.pow_add, ← Nat.mul_assoc]

lemma foldWhole_of_dropsTail {k : Nat} {ds : List Nat} (hds : ∀ d ∈ ds, d < 2 ^ k)
    (h : DropsTail (2 ^ k) ds) :
    ∃ front tail, ds = front ++ tail ∧ IsLowTie (wholeNumber (2 ^ k) front) ∧
      (∃ d ∈ tail, d ≠ 0) ∧ foldWhole (2 ^ k) ds =
        roundWhole (wholeNumber (2 ^ k) front) * 2 ^ (k * tail.length) := by
  obtain ⟨front, tail, rfl, hfront, htie, htail⟩ := h.exists_first
  have hfold := foldWhole_of_not_dropsTail (fun d hd => hds d (List.mem_append_left _ hd)) hfront
  refine ⟨front, tail, rfl, htie, htail, ?_⟩
  rw [← hfold]
  refine foldWhole_append (fun d hd => hds d (List.mem_append_right _ hd)) ?_
  obtain ⟨s, e, hlow, hhigh, hn⟩ := htie
  rw [hfold, hn, IsLowTie.roundWhole_eq hlow hhigh]
  calc 2 ^ 53 ≤ 2 * s * 2 ^ 1 := by omega
    _ ≤ 2 * s * 2 ^ (e + 1) :=
      Nat.mul_le_mul_left _ (Nat.pow_le_pow_right Nat.two_pos (Nat.le_add_left ..))

end Binary64

/-! ## Literals -/

open Binary64 in
/-- The digits of a base that is a power of two make the nearest double exactly if no tail is
dropped or their number is too large for a double. -/
lemma foldDigits_eq_ofInt_iff {k : Nat} (hpos : 0 < k) (hk : k ≤ 4) {ds : List Nat}
    (hds : ∀ d ∈ ds, d < 2 ^ k) :
    foldDigits (2 ^ k) (.zero false) ds = ofInt (wholeNumber (2 ^ k) ds) ↔
      ¬ (DropsTail (2 ^ k) ds ∧ wholeNumber (2 ^ k) ds < 2 ^ 1024) := by
  rw [foldDigits_eq_ofInt (Nat.pow_le_pow_right (by decide) hk) hds]
  by_cases hdrops : DropsTail (2 ^ k) ds
  · obtain ⟨front, tail, rfl, htie, htail, hfold⟩ := foldWhole_of_dropsTail hds hdrops
    have hbase : 1 < 2 ^ k := Nat.one_lt_two_pow (Nat.ne_of_gt hpos)
    have hlt := wholeNumber_lt hbase fun d hd => hds d (List.mem_append_right front hd)
    have htail := wholeNumber_pos (Nat.two_pow_pos k) htail
    have hwhole := wholeNumber_append (2 ^ k) front tail
    rw [← Nat.pow_mul] at hlt hwhole
    rcases Nat.lt_or_ge (wholeNumber (2 ^ k) (front ++ tail)) (2 ^ 1024) with hsmall | hlarge
    · have hle := Nat.mul_le_mul_right (2 ^ (k * tail.length)) htie.roundWhole_le
      have hne := Nat.ne_of_lt (htie.lt_roundWhole hlt htail)
      rw [← hfold] at hle hne
      rw [← hwhole] at hne
      have hsmall' : foldWhole (2 ^ k) (front ++ tail) < 2 ^ 1024 := by omega
      rw [ofInt_eq_iff hsmall' (precise_foldWhole ..)]
      exact iff_of_false hne fun h => h ⟨hdrops, hsmall⟩
    · have hlarge' := htie.pow_le_roundWhole hlt (hwhole ▸ hlarge)
      rw [← hfold] at hlarge'
      rw [ofInt_of_le hlarge, ofInt_of_le hlarge']
      exact iff_of_true rfl fun h => Nat.not_lt.2 hlarge h.2
  · rw [foldWhole_of_not_dropsTail hds hdrops, ofInt_roundWhole]
    exact iff_of_true rfl fun h => hdrops h.1

lemma BaseLetter.exists_eq_pow {c : Char} {base : Nat} (h : BaseLetter c base) :
    ∃ k, base = 2 ^ k ∧ 0 < k ∧ k ≤ 4 := by
  cases h with
  | hexadecimal => exact ⟨4, rfl, by decide, by decide⟩
  | octal => exact ⟨3, rfl, by decide, by decide⟩
  | binary => exact ⟨1, rfl, by decide, by decide⟩

/-- **A whole number in base 16, 8 or 2 is read as the nearest double exactly if no tail of its
digits is dropped** or the number is too large for a double anyway.  Where a tail is dropped, the
double is the one nearest to the number with zeros in its place. -/
theorem baseLiteral_isNearest_iff {letter : Char} {base : Nat} {cs : List Char} {ds : List Nat}
    (hl : BaseLetter letter base) (hne : cs ≠ []) (hds : List.Forall₂ (IsDigitOf base) cs ds) :
    ∃ x, baseLiteral? ('0' :: letter :: cs) = some x ∧
      numericLiteral? ('0' :: letter :: cs) = some x ∧
      (Binary64.IsNearest (wholeNumber base ds * Nat.pow 2 Binary64.quantumBits) x ↔
        ¬ (DropsTail base ds ∧ wholeNumber base ds < 2 ^ 1024)) ∧
      (DropsTail base ds → ∃ front tail, ds = front ++ tail ∧
        Binary64.IsLowTie (wholeNumber base front) ∧ (∃ d ∈ tail, d ≠ 0) ∧
        Binary64.IsNearest (wholeNumber base front * base ^ tail.length *
          Nat.pow 2 Binary64.quantumBits) x) := by
  have hread : baseLiteral? ('0' :: letter :: cs) = some (foldDigits base (.zero false) ds) :=
    baseLiteral?_eq_some_iff.2 ⟨letter, base, cs, ds, rfl, hl, hne, hds, rfl⟩
  have hlt : ∀ d ∈ ds, d < base := by
    intro d hd
    obtain ⟨i, hi, rfl⟩ := List.getElem_of_mem hd
    exact (hds.get (hds.length_eq ▸ hi) hi).1
  obtain ⟨k, rfl, hpos, hk⟩ := hl.exists_eq_pow
  refine ⟨_, hread, by simp only [numericLiteral?, hread], ?_, fun hdrops => ?_⟩
  · rw [Binary64.isNearest_iff, ← Binary64.ofInt_natCast]
    exact foldDigits_eq_ofInt_iff hpos hk hlt
  · obtain ⟨front, tail, rfl, htie, htail, hfold⟩ := Binary64.foldWhole_of_dropsTail hlt hdrops
    refine ⟨front, tail, rfl, htie, htail, ?_⟩
    rw [Binary64.isNearest_iff, ← Binary64.ofInt_natCast, ← Nat.pow_mul]
    calc foldDigits (2 ^ k) (.zero false) (front ++ tail)
        = .ofInt (Binary64.foldWhole (2 ^ k) (front ++ tail)) :=
          Binary64.foldDigits_eq_ofInt (Nat.pow_le_pow_right (by decide) hk) hlt
      _ = .ofInt (Binary64.roundWhole (wholeNumber (2 ^ k) front * 2 ^ (k * tail.length))) := by
          rw [hfold, Binary64.roundWhole_mul_pow]
      _ = .ofInt (wholeNumber (2 ^ k) front * 2 ^ (k * tail.length) : Nat) :=
          Binary64.ofInt_roundWhole _

/-- The binary literal of `2 ^ 54 + 3`: its first 54 digits are half way between two neighbours, and
a one follows. -/
theorem baseLiteral_isNearest_iff_binary :
    BaseLetter 'b' 2 ∧
      List.Forall₂ (IsDigitOf 2) ('1' :: List.replicate 52 '0' ++ ['1', '1'])
        (1 :: List.replicate 52 0 ++ [1, 1]) ∧
      ∃ x, baseLiteral? ('0' :: 'b' :: ('1' :: List.replicate 52 '0' ++ ['1', '1'])) = some x ∧
        ¬ Binary64.IsNearest ((2 ^ 54 + 3) * Nat.pow 2 Binary64.quantumBits) x := by
  have hds : List.Forall₂ (IsDigitOf 2) ('1' :: List.replicate 52 '0' ++ ['1', '1'])
      (1 :: List.replicate 52 0 ++ [1, 1]) := by
    refine List.forall₂_iff_get.2 ⟨rfl, fun i hi hi' => ?_⟩
    have hall : ∀ i : Fin 55,
        digitValue? 2 (('1' :: List.replicate 52 '0' ++ ['1', '1']).get i) =
          some ((1 :: List.replicate 52 0 ++ [1, 1]).get i) := by decide +kernel
    exact (digitValue?_eq_some_iff (by decide)).1 (hall ⟨i, hi⟩)
  have hdrops : DropsTail 2 (1 :: List.replicate 52 0 ++ [1, 1]) :=
    ⟨1 :: List.replicate 52 0 ++ [1], [1], rfl, ⟨2 ^ 51, 0, by decide +kernel⟩, 1, by decide⟩
  have hwhole : wholeNumber 2 (1 :: List.replicate 52 0 ++ [1, 1]) = 2 ^ 54 + 3 := by
    decide +kernel
  obtain ⟨x, hx, -, hnearest, -⟩ :=
    baseLiteral_isNearest_iff (.binary (.inl rfl)) (List.cons_ne_nil _ _) hds
  refine ⟨.binary (.inl rfl), hds, x, hx, ?_⟩
  rw [hwhole] at hnearest
  exact fun h => hnearest.1 h ⟨hdrops, by decide +kernel⟩

/-- **Not every whole number is read as the nearest double.**  In base 2, `2 ^ 54 + 3` is read as
`2 ^ 54`.  The double nearest to it is `2 ^ 54 + 4`, and in base 16 the same number is read
as that. -/
theorem numericLiteral?_not_nearest :
    numericLiteral? "0b1000000000000000000000000000000000000000000000000000011".toList =
        some (.ofInt (2 ^ 54)) ∧
      numericLiteral? "0x40000000000003".toList = some (.ofInt (2 ^ 54 + 4)) ∧
      ¬ Binary64.IsNearest ((2 ^ 54 + 3) * Nat.pow 2 Binary64.quantumBits) (.ofInt (2 ^ 54)) ∧
      Binary64.IsNearest ((2 ^ 54 + 3) * Nat.pow 2 Binary64.quantumBits)
        (.ofInt (2 ^ 54 + 4)) := by
  rw [Binary64.isNearest_iff, Binary64.isNearest_iff]
  decide +kernel

end ComponentQuery
