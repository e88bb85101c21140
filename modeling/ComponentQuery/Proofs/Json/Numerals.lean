import ComponentQuery.Proofs.Json.Validity
import ComponentQuery.Proofs.Number.Grammar

/-!
# JSON numbers as numeric literals

Selectors may have for a number whatever a JSON text has for it.  The numbers of JSON are written
like decimal literals, only with fewer choices: no plus in front, no digit missing around the point
and no zero before other digits.  And both denote the double that is nearest to what is written, an
integer of JSON included, since the rounding of an integer is that of its digits.

`numericLiteral_of_read` says so of a whole text.
-/

namespace ComponentQuery.Json

/-! ## Drafts of numbers -/

/-- A number as written behind its sign, and its draft. -/
inductive Numeral (negative : Bool) : List Char → NumberDraft → Prop where
  | intro {m e : List Char} {digits places : Nat} {power : Int} (hm : Mantissa m digits places)
      (he : Exponent e power) {isWhole : Bool} (hwhole : isWhole = true → power - places = 0) :
      Numeral negative (m ++ e) ⟨negative, digits, power - places, isWhole⟩

lemma missingDigit_ne_number {cs : List Char} {n : NumberDraft} : missingDigit cs ≠ .number n := by
  cases cs <;> simp [missingDigit]

lemma exists_power_of_exponentDraft {negative : Bool} {digits places : Nat} {cs rest : List Char}
    {n : NumberDraft} (h : exponentDraft negative digits places cs = (.number n, rest)) :
    ∃ p power, cs = p ++ rest ∧ Power p power ∧
      n = ⟨negative, digits, power - places, false⟩ := by
  revert h
  fun_cases exponentDraft negative digits places cs with
  | case1 => exact fun h => absurd (Prod.mk.inj h).1 missingDigit_ne_number
  | case2 down unsigned hsplit ds _ hne =>
    intro h
    obtain ⟨hn, rfl⟩ := Prod.mk.inj h
    obtain ⟨sign, rfl, hsign⟩ : ∃ sign, cs = sign ++ unsigned ∧ Sign sign down := by
      split at hsplit <;> obtain ⟨rfl, rfl⟩ := Prod.mk.inj hsplit
      · exact ⟨['-'], rfl, .minus⟩
      · exact ⟨['+'], rfl, .plus⟩
      · exact ⟨[], rfl, .absent⟩
    have hrun := isRun_takeWhile Char.isDigit unsigned
    refine ⟨sign ++ ds, _, ?_, .intro hsign hne hrun.all, (Draft.number.inj hn).symm⟩
    rw [List.append_assoc, List.takeWhile_append_dropWhile]

section Mantissas

variable {negative : Bool} {m behind rest : List Char} {digits places : Nat} {n : NumberDraft}

lemma exists_numeral_of_mark (hm : Mantissa m digits places) {c : Char}
    (hc : (c == 'e' || c == 'E') = true)
    (h : exponentDraft negative digits places behind = (.number n, rest)) :
    ∃ text, m ++ c :: behind = text ++ rest ∧ Numeral negative text n := by
  obtain ⟨p, power, rfl, hpower, rfl⟩ := exists_power_of_exponentDraft h
  exact ⟨m ++ c :: p, by simp, .intro hm (.present (by simpa using hc) hpower) (by simp)⟩

lemma exists_numeral_of_alone (hm : Mantissa m digits places) {isWhole : Bool}
    (hwhole : isWhole = true → places = 0)
    (h : (Draft.number ⟨negative, digits, -places, isWhole⟩, behind) = (.number n, rest)) :
    ∃ text, m ++ behind = text ++ rest ∧ Numeral negative text n := by
  obtain ⟨hn, rfl⟩ := Prod.mk.inj h
  obtain rfl := Draft.number.inj hn
  have hnumeral : Numeral negative (m ++ []) ⟨negative, digits, 0 - places, isWhole⟩ :=
    .intro hm .absent fun hw => by simp [hwhole hw]
  rw [List.append_nil, Int.zero_sub] at hnumeral
  exact ⟨m, rfl, hnumeral⟩

end Mantissas

/-- What is read as a number is one in the grammar of literals. -/
lemma exists_numeral_of_numberDraft {negative : Bool} {cs rest : List Char} {n : NumberDraft}
    (h : numberDraft negative cs = (.number n, rest)) :
    ∃ text, cs = text ++ rest ∧ Numeral negative text n := by
  have hrun := isRun_takeWhile Char.isDigit cs
  have hcs : cs.takeWhile Char.isDigit ++ cs.dropWhile Char.isDigit = cs :=
    List.takeWhile_append_dropWhile
  unfold numberDraft at h
  dsimp only at h
  generalize cs.takeWhile Char.isDigit = whole at h hrun hcs
  generalize cs.dropWhile Char.isDigit = behind at h hrun hcs
  subst hcs
  split at h
  case h_1 => exact absurd (Prod.mk.inj h).1 missingDigit_ne_number
  case h_2 => simp at h
  case h_3 hne _ =>
    -- The mantissa is all the digits, and with a point those behind it.
    have hwhole : Mantissa whole (Decimal.ofDigits whole) 0 := .whole hne hrun.all
    split at h
    case h_1 pointed =>
      have hrun' := isRun_takeWhile Char.isDigit pointed
      have hpointed : pointed.takeWhile Char.isDigit ++ pointed.dropWhile Char.isDigit = pointed :=
        List.takeWhile_append_dropWhile
      generalize pointed.takeWhile Char.isDigit = fraction at h hrun' hpointed
      generalize pointed.dropWhile Char.isDigit = behind at h hrun' hpointed
      subst hpointed
      have hmantissa : Mantissa (whole ++ '.' :: fraction) (Decimal.ofDigits (whole ++ fraction))
          fraction.length :=
        .pointed (List.append_ne_nil_of_left_ne_nil hne _)
          (List.forall_mem_append.2 ⟨hrun.all, hrun'.all⟩)
      have happend : whole ++ '.' :: (fraction ++ behind) = whole ++ '.' :: fraction ++ behind := by
        simp
      rw [happend]
      split at h
      · exact absurd (Prod.mk.inj h).1 missingDigit_ne_number
      split at h
      · split at h
        · exact exists_numeral_of_mark hmantissa ‹_› h
        · exact exists_numeral_of_alone hmantissa (by simp) h
      · exact exists_numeral_of_alone hmantissa (by simp) h
    case h_2 =>
      split at h
      · exact exists_numeral_of_mark hwhole ‹_› h
      · exact exists_numeral_of_alone hwhole (by simp) h
    case h_3 => exact exists_numeral_of_alone hwhole (by simp) h

/-! ## The double of a number -/

lemma ofInt_eq_ofDecimal (n : Int) : Binary64.ofInt n = .ofDecimal (n < 0) n.natAbs 0 := by
  rw [Binary64.ofDecimal_eq_ofQuotient, Binary64.decimalNum_of_nonpos _ (Int.le_refl 0),
    Binary64.decimalDen_of_nonneg (Int.le_refl 0), Binary64.ofInt]

/-- A number that is read denotes the double nearest to what is written. -/
lemma toDouble_of_read {d : NumberDraft} {n : Number} (hwhole : d.isWhole = true → d.exponent = 0)
    (h : d.read = .ok n) : n.toDouble = .ofDecimal d.negative d.digits d.exponent := by
  revert h
  fun_cases NumberDraft.read d with
  | case1 hsmall =>
    rintro ⟨⟩
    obtain ⟨hw, hpositive, -⟩ := hsmall
    have hnonneg : ¬ (d.digits : Int) < 0 := by omega
    calc Binary64.ofInt d.digits
        = .ofDecimal (decide ((d.digits : Int) < 0)) (d.digits : Int).natAbs 0 :=
          ofInt_eq_ofDecimal _
      _ = .ofDecimal d.negative d.digits d.exponent := by
          rw [decide_eq_false hnonneg, Int.natAbs_natCast, eq_false_of_ne_true hpositive, hwhole hw]
  | case2 _ hsmall =>
    rintro ⟨⟩
    obtain ⟨hw, hnegative, hne, -⟩ := hsmall
    have hlt : -(d.digits : Int) < 0 := by omega
    calc Binary64.ofInt (-d.digits)
        = .ofDecimal (decide (-(d.digits : Int) < 0)) (-(d.digits : Int)).natAbs 0 :=
          ofInt_eq_ofDecimal _
      _ = .ofDecimal d.negative d.digits d.exponent := by
          rw [decide_eq_true hlt, Int.natAbs_neg, Int.natAbs_natCast, hnegative, hwhole hw]
  | case3 => simp [malformed]
  | case4 =>
    rintro ⟨⟩
    rfl

lemma Numeral.numericLiteral {negative : Bool} {sign text : List Char} {d : NumberDraft}
    {n : Number} (h : Numeral negative text d) (hsign : Sign sign negative)
    (hread : d.read = .ok n) : NumericLiteral (sign ++ text) n.toDouble := by
  obtain ⟨hm, he, hwhole⟩ := h
  rw [toDouble_of_read hwhole hread]
  exact .decimal hsign hm he

/-! ## Whole texts -/

lemma wordDraft_ne_number {d : Draft} (hd : ∀ n, d ≠ .number n) {letters cs : List Char}
    {n : NumberDraft} : (wordDraft d letters cs).1 ≠ .number n := by
  unfold wordDraft
  split
  · exact hd n
  · simp

lemma exists_numeral_of_valueDraft {fuel : Nat} {cs rest : List Char} {d : NumberDraft}
    (h : valueDraft fuel cs = (.number d, rest)) :
    ∃ sign negative text, skipSpace cs = sign ++ (text ++ rest) ∧ Sign sign negative ∧
      Numeral negative text d := by
  revert h
  fun_cases valueDraft fuel cs with
  | case3 | case4 | case5 =>
    exact fun h => absurd (congrArg Prod.fst h) (wordDraft_ne_number (by simp))
  | case7 fuel cs unsigned hcs =>
    intro h
    obtain ⟨text, rfl, htext⟩ := exists_numeral_of_numberDraft h
    exact ⟨['-'], true, text, hcs, .minus, htext⟩
  | case15 fuel cs c behind _ _ _ _ _ _ _ hcs =>
    -- a digit, which is read again as the first of the number
    intro h
    obtain ⟨text, htext, hnumeral⟩ := exists_numeral_of_numberDraft h
    exact ⟨[], false, text, by rw [hcs, htext]; rfl, .absent, hnumeral⟩
  | _ => simp

lemma skipSpace_eq_self {cs : List Char} (h : ∀ c ∈ cs, isSpace c = false) : skipSpace cs = cs := by
  cases cs with
  | nil => rfl
  | cons c cs => exact skipSpace_cons (h c (List.mem_cons_self ..)) cs

/-- **A JSON number is a literal** of the double that it is read as. -/
theorem numericLiteral_of_read {cs : List Char} {n : Number}
    (hspace : ∀ c ∈ cs, isSpace c = false)
    (h : Json.read Reader.value (String.ofList cs) = .ok (.number n)) :
    NumericLiteral cs n.toDouble := by
  obtain ⟨draft, hdraft, hvalue⟩ := exists_of_read h
  cases reads_of_value hvalue with | number _ hread =>
  obtain ⟨value, rest, hread'⟩ : ∃ value rest, valueDraft (2 * cs.length + 2) cs = (value, rest) :=
    ⟨_, _, rfl⟩
  rw [Draft.ofText, String.toList_ofList, hread'] at hdraft
  obtain ⟨rfl, hrest⟩ := Prod.mk.inj hdraft
  obtain ⟨sign, negative, text, hcs, hsign, hnumeral⟩ := exists_numeral_of_valueDraft hread'
  rw [skipSpace_eq_self hspace] at hcs
  -- What is left has no blanks either, so that nothing is left.
  rw [skipSpace_eq_self fun c hc => hspace c (by simp [hcs, hc])] at hrest
  obtain rfl : rest = [] := by simpa using hrest
  rw [hcs, List.append_nil]
  exact hnumeral.numericLiteral hsign hread

end ComponentQuery.Json
