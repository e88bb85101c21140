import ComponentQuery.Json.Reader
import ComponentQuery.Json.Text
import ComponentQuery.Proofs.Number.Digits
import ComponentQuery.Proofs.Text.Run

/-!
# Strings and numbers in JSON

What is written for a string or a number is read back: `stringDraft_quote` for strings, and
`numberDraft_whole`, `numberDraft_positional` and `numberDraft_scientific` for the three ways to
write a number.
-/

namespace ComponentQuery.Json

/-! ## Strings -/

/-- The piece that a written character is read as: a control character without a letter of its own
is written by its number. -/
def pieceOf (c : Char) : Piece :=
  if escapeLetter? c = none ∧ c.toNat < 0x20 then .unit c.toNat else .char c

/-- The letters that escape are read as what they stand for, and none of them announces a number. -/
lemma unescape?_of_escapeLetter? {c letter : Char} (h : escapeLetter? c = some letter) :
    letter ≠ 'u' ∧ unescape? letter = some c := by
  unfold escapeLetter? at h
  split at h <;> simp only [Option.some.injEq, reduceCtorEq] at h <;> subst h <;>
    exact ⟨by decide, rfl⟩

lemma ne_of_escapeLetter?_eq_none {c : Char} (h : escapeLetter? c = none) : c ≠ '"' ∧ c ≠ '\\' := by
  constructor <;> rintro rfl <;> simp [escapeLetter?] at h

lemma hexUnit?_of_lt {n : Nat} (h : n < 0x20) :
    hexUnit? '0' '0' (hexDigit (n / 16)) (hexDigit n) = some n := by
  have hall : ∀ n < 0x20, hexUnit? '0' '0' (hexDigit (n / 16)) (hexDigit n) = some n := by decide
  exact hall n h

lemma pieces_escapeChar (c : Char) (rest : List Char) :
    pieces (escapeChar c ++ rest) =
      (pieceOf c :: (pieces rest).1, (pieces rest).2.1, (pieces rest).2.2) := by
  unfold escapeChar
  cases hletter : escapeLetter? c with
  | some letter =>
    obtain ⟨hu, hc⟩ := unescape?_of_escapeLetter? hletter
    simp only [List.cons_append, List.nil_append, pieceOf, hletter]
    rw [pieces.eq_def]
    split <;> grind
  | none =>
    obtain ⟨hmark, hbackslash⟩ := ne_of_escapeLetter?_eq_none hletter
    simp only
    split
    case isTrue hlt =>
      simp only [List.cons_append, List.nil_append, pieceOf, hletter, hlt]
      rw [pieces]
      simp only [hexUnit?_of_lt hlt]
      simp
    case isFalse hge =>
      simp only [List.cons_append, List.nil_append, pieceOf, hge]
      rw [pieces.eq_def]
      split <;> simp_all

lemma pieces_flatMap (cs rest : List Char) :
    pieces (cs.flatMap escapeChar ++ '"' :: rest) = (cs.map pieceOf, none, rest) := by
  induction cs with
  | nil =>
    rw [List.flatMap_nil, List.nil_append, pieces.eq_def]
    rfl
  | cons c cs ih =>
    calc pieces ((c :: cs).flatMap escapeChar ++ '"' :: rest)
      _ = pieces (escapeChar c ++ (cs.flatMap escapeChar ++ '"' :: rest)) := by
        rw [List.flatMap_cons, List.append_assoc]
      _ = (pieceOf c :: cs.map pieceOf, none, rest) := by rw [pieces_escapeChar, ih]

lemma joinPieces_unit {n : Nat} (hn : n < 0xd800) (textEnds : Bool) (ps : List Piece) :
    joinPieces textEnds (.unit n :: ps) =
      (Char.ofNat n :: (joinPieces textEnds ps).1, (joinPieces textEnds ps).2) := by
  have hhigh : isHighSurrogate n = false := by simp [isHighSurrogate]; omega
  have hlow : isLowSurrogate n = false := by simp [isLowSurrogate]; omega
  rw [joinPieces.eq_def]
  split <;> simp_all

lemma joinPieces_map_pieceOf (textEnds : Bool) (cs : List Char) :
    joinPieces textEnds (cs.map pieceOf) = (cs, false) := by
  induction cs with
  | nil => rfl
  | cons c cs ih =>
    rw [List.map_cons]
    by_cases hunit : escapeLetter? c = none ∧ c.toNat < 0x20
    · have hpiece : pieceOf c = .unit c.toNat := if_pos hunit
      rw [hpiece, joinPieces_unit (by omega), ih, Char.ofNat_toNat]
    · have hpiece : pieceOf c = .char c := if_neg hunit
      rw [hpiece, joinPieces.eq_def]
      simp only [ih]

/-- The string that a written one is read as. -/
def StringDraft.ofString (s : String) : StringDraft := ⟨s.toList, false, none⟩

lemma stringDraft_quote (s : String) (rest : List Char) :
    stringDraft (s.toList.flatMap escapeChar ++ '"' :: rest) = (.ofString s, rest) := by
  unfold stringDraft
  simp only [pieces_flatMap, joinPieces_map_pieceOf]
  rfl

@[simp] lemma StringDraft.read_ofString (s : String) : (StringDraft.ofString s).read = .ok s := by
  simp [StringDraft.ofString, StringDraft.read]

lemma quote_append (cs rest : List Char) :
    quote cs ++ rest = '"' :: (cs.flatMap escapeChar ++ '"' :: rest) := by
  simp [quote]

/-! ## The reader of numbers -/

/-- What may follow a value: nothing, a comma or a closing bracket. -/
def Follows (rest : List Char) : Prop := ∀ c ∈ rest.head?, c ∈ [',', ']', '\x7d']

lemma Follows.cases {rest : List Char} (h : Follows rest) :
    rest = [] ∨ ∃ c cs, rest = c :: cs ∧ (c = ',' ∨ c = ']' ∨ c = '\x7d') := by
  cases rest with
  | nil => exact .inl rfl
  | cons c cs => exact .inr ⟨c, cs, rfl, by simpa using h c rfl⟩

lemma Follows.not_digit {rest : List Char} (h : Follows rest) :
    ∀ c ∈ rest.head?, c.isDigit = false := by
  rcases h.cases with rfl | ⟨c, cs, rfl, rfl | rfl | rfl⟩ <;> simp

variable (negative : Bool) {ds es rest : List Char}

lemma numberDraft_whole (hds : ∀ c ∈ ds, c.isDigit = true) (hne : ds ≠ [])
    (hzero : ∀ c cs, ds ≠ '0' :: c :: cs) (hrest : Follows rest) :
    numberDraft negative (ds ++ rest) =
      (.number ⟨negative, Decimal.ofDigits ds, 0, true⟩, rest) := by
  have hrun : IsRun Char.isDigit ds rest := ⟨hds, hrest.not_digit⟩
  unfold numberDraft
  simp only [hrun.takeWhile_eq, hrun.dropWhile_eq]
  rcases hrest.cases with rfl | ⟨c, rest, rfl, rfl | rfl | rfl⟩ <;> rfl

lemma numberDraft_fraction (hds : ∀ c ∈ ds, c.isDigit = true) (hne : ds ≠ [])
    (hzero : ∀ c cs, ds ≠ '0' :: c :: cs) (hes : ∀ c ∈ es, c.isDigit = true) (hne' : es ≠ [])
    (hrest : Follows rest) :
    numberDraft negative (ds ++ '.' :: (es ++ rest)) =
      (.number ⟨negative, Decimal.ofDigits (ds ++ es), -(es.length : Int), false⟩, rest) := by
  have hrun : IsRun Char.isDigit ds ('.' :: (es ++ rest)) := .before_cons hds rfl
  have hrun' : IsRun Char.isDigit es rest := ⟨hes, hrest.not_digit⟩
  unfold numberDraft
  simp only [hrun.takeWhile_eq, hrun.dropWhile_eq, hrun'.takeWhile_eq, hrun'.dropWhile_eq,
    if_neg hne']
  rcases hrest.cases with rfl | ⟨c, rest, rfl, rfl | rfl | rfl⟩ <;> rfl

lemma exponentDraft_eq (digits places : Nat) (e : Int) {rest : List Char}
    (hrest : Follows rest) :
    exponentDraft negative digits places
        ((if e < 0 then '-' else '+') :: (Decimal.digitsText e.natAbs ++ rest)) =
      (.number ⟨negative, digits, e - places, false⟩, rest) := by
  have hrun : IsRun Char.isDigit (Decimal.digitsText e.natAbs) rest :=
    ⟨Decimal.isDigit_of_mem_digitsText, hrest.not_digit⟩
  unfold exponentDraft
  by_cases he : e < 0
  · simp only [if_pos he, hrun.takeWhile_eq, hrun.dropWhile_eq,
      if_neg (Decimal.digitsText_ne_nil _), Decimal.ofDigits_digitsText]
    congr 3
    simp only [if_true]
    omega
  · simp only [if_neg he, hrun.takeWhile_eq, hrun.dropWhile_eq,
      if_neg (Decimal.digitsText_ne_nil _), Decimal.ofDigits_digitsText]
    congr 3
    simp only [Bool.false_eq_true, if_false]
    omega

/-- A digit, perhaps others as a fraction, and an exponent are a number. -/
lemma numberDraft_exponent {c : Char} (hc : c.isDigit = true) (hes : ∀ c ∈ es, c.isDigit = true)
    (e : Int) (hrest : Follows rest) :
    numberDraft negative ((if es = [] then [c] else c :: '.' :: es) ++
        'e' :: (if e < 0 then '-' else '+') :: (Decimal.digitsText e.natAbs ++ rest)) =
      (.number ⟨negative, Decimal.ofDigits (c :: es), e - es.length, false⟩, rest) := by
  have hds : ∀ d ∈ [c], d.isDigit = true := by simpa using hc
  by_cases hne : es = []
  · subst hne
    have hrun : IsRun Char.isDigit [c]
        ('e' :: (if e < 0 then '-' else '+') :: (Decimal.digitsText e.natAbs ++ rest)) :=
      .before_cons hds rfl
    rw [if_pos rfl]
    unfold numberDraft
    simp only [hrun.takeWhile_eq, hrun.dropWhile_eq]
    exact exponentDraft_eq negative _ _ e hrest
  · have hrun : IsRun Char.isDigit [c] ('.' :: (es ++
        'e' :: (if e < 0 then '-' else '+') :: (Decimal.digitsText e.natAbs ++ rest))) :=
      .before_cons hds rfl
    have hrun' : IsRun Char.isDigit es
        ('e' :: (if e < 0 then '-' else '+') :: (Decimal.digitsText e.natAbs ++ rest)) :=
      .before_cons hes rfl
    rw [if_neg hne, List.cons_append, List.cons_append, ← List.singleton_append]
    unfold numberDraft
    simp only [hrun.takeWhile_eq, hrun.dropWhile_eq, hrun'.takeWhile_eq, hrun'.dropWhile_eq,
      if_neg hne]
    exact exponentDraft_eq negative _ _ e hrest

/-! ## Written doubles -/

lemma isDigit_of_mem_replicate {n : Nat} : ∀ c ∈ List.replicate n '0', c.isDigit = true := by
  intro c hc
  rw [List.eq_of_mem_replicate hc]
  rfl

lemma ne_zero_cons_of_head? {cs : List Char} (h : cs.head? ≠ some '0') (c : Char)
    (cs' : List Char) : cs ≠ '0' :: c :: cs' := by
  rintro rfl
  exact h rfl

/-- A decimal with places behind the point is written as digits with a point among them. -/
lemma exists_positional_eq {d : Decimal} (hd : d.digits ≠ 0) (he : d.exponent < 0) :
    ∃ ds es, d.positional = ds ++ '.' :: es ∧ (∀ c ∈ ds, c.isDigit = true) ∧ ds ≠ [] ∧
      (∀ c cs, ds ≠ '0' :: c :: cs) ∧ (∀ c ∈ es, c.isDigit = true) ∧ es ≠ [] ∧
      Decimal.ofDigits (ds ++ es) = d.digits ∧ -(es.length : Int) = d.exponent := by
  have hdigits : ∀ c ∈ Decimal.digitsText d.digits, c.isDigit = true :=
    Decimal.isDigit_of_mem_digitsText
  unfold Decimal.positional
  rw [if_neg (by omega)]
  generalize hplaces : (-d.exponent).toNat = places
  generalize htext : Decimal.digitsText d.digits = text at hdigits
  dsimp only
  by_cases hlt : places < text.length
  · -- the point stands among the digits
    rw [if_pos hlt]
    refine ⟨text.take (text.length - places), text.drop (text.length - places), rfl,
      fun c hc => hdigits c (List.mem_of_mem_take hc), ?_, ?_,
      fun c hc => hdigits c (List.mem_of_mem_drop hc), ?_, ?_, ?_⟩
    · refine List.ne_nil_of_length_pos ?_
      rw [List.length_take]
      omega
    · refine ne_zero_cons_of_head? ?_
      rw [List.head?_take, if_neg (by omega), ← htext]
      exact Decimal.head?_digitsText_ne hd
    · refine List.ne_nil_of_length_pos ?_
      rw [List.length_drop]
      omega
    · rw [List.take_append_drop, ← htext, Decimal.ofDigits_digitsText]
    · rw [List.length_drop]
      omega
  · -- the digits stand behind the point, with zeros before them
    rw [if_neg hlt]
    have hpos : 0 < text.length :=
      List.length_pos_iff.2 (htext ▸ Decimal.digitsText_ne_nil d.digits)
    refine ⟨['0'], List.replicate (places - text.length) '0' ++ text, by simp,
      by simp, by simp, by simp, ?_, ?_, ?_, ?_⟩
    · exact List.forall_mem_append.2 ⟨isDigit_of_mem_replicate, hdigits⟩
    · refine List.ne_nil_of_length_pos ?_
      rw [List.length_append]
      omega
    · have hzeros : ['0'] ++ List.replicate (places - text.length) '0' =
          List.replicate (places - text.length + 1) '0' := List.replicate_succ.symm
      calc Decimal.ofDigits (['0'] ++ (List.replicate (places - text.length) '0' ++ text))
          = Decimal.ofDigits (List.replicate (places - text.length + 1) '0' ++ text) := by
            rw [← List.append_assoc, hzeros]
        _ = Decimal.ofDigits text := by
            rw [Decimal.ofDigits_append, Decimal.ofDigits_replicate_zero, Nat.zero_mul,
              Nat.zero_add]
        _ = d.digits := by rw [← htext, Decimal.ofDigits_digitsText]
    · rw [List.length_append, List.length_replicate]
      omega

/-- What the text of a decimal, with a sign in front, is read as: a whole number is written with a
zero as its fraction. -/
def decimalDraft (negative : Bool) (d : Decimal) : NumberDraft :=
  if Binary64.isPlainInJson d.leading ∧ 0 ≤ d.exponent then
    ⟨negative, d.digits * Nat.pow 10 (d.exponent.toNat + 1), -1, false⟩
  else ⟨negative, d.digits, d.exponent, false⟩

lemma numberDraft_positional {d : Decimal} (hd : d.digits ≠ 0)
    (hplain : Binary64.isPlainInJson d.leading = true) (hrest : Follows rest) :
    numberDraft negative (d.positionalWithFraction ++ rest) =
      (.number (decimalDraft negative d), rest) := by
  unfold Decimal.positionalWithFraction decimalDraft
  by_cases he : 0 ≤ d.exponent
  · rw [if_pos he, if_pos ⟨hplain, he⟩]
    have hzeros : List.replicate d.exponent.toNat '0' ++ ['0'] =
        List.replicate (d.exponent.toNat + 1) '0' := List.replicate_succ'.symm
    have hdigits : Decimal.ofDigits
        (Decimal.digitsText d.digits ++ List.replicate d.exponent.toNat '0' ++ ['0']) =
          d.digits * Nat.pow 10 (d.exponent.toNat + 1) := by
      calc Decimal.ofDigits
            (Decimal.digitsText d.digits ++ List.replicate d.exponent.toNat '0' ++ ['0'])
          = Decimal.ofDigits
              (Decimal.digitsText d.digits ++ List.replicate (d.exponent.toNat + 1) '0') := by
            rw [List.append_assoc, hzeros]
        _ = Decimal.ofDigits (Decimal.digitsText d.digits) *
              Nat.pow 10 (d.exponent.toNat + 1) := by
            rw [Decimal.ofDigits_append, Decimal.ofDigits_replicate_zero, List.length_replicate,
              Nat.add_zero]
        _ = d.digits * Nat.pow 10 (d.exponent.toNat + 1) := by rw [Decimal.ofDigits_digitsText]
    have hhead : (Decimal.digitsText d.digits ++ List.replicate d.exponent.toNat '0').head? ≠
        some '0' := by
      obtain ⟨c, cs, htext⟩ := List.exists_cons_of_ne_nil (Decimal.digitsText_ne_nil d.digits)
      have hc := Decimal.head?_digitsText_ne hd
      rw [htext] at hc ⊢
      exact hc
    have hzero : ∀ c ∈ ['0'], c.isDigit = true := by simp
    have hread := numberDraft_fraction negative
      (List.forall_mem_append.2 ⟨Decimal.isDigit_of_mem_digitsText, isDigit_of_mem_replicate⟩)
      (by simp) (ne_zero_cons_of_head? hhead) hzero (by simp) hrest
    rw [hdigits] at hread
    simpa [Decimal.positional, he] using hread
  · obtain ⟨ds, es, htext, hds, hne, hzero, hes, hne', hdigits, hlength⟩ :=
      exists_positional_eq hd (Int.not_le.1 he)
    have hread := numberDraft_fraction negative hds hne hzero hes hne' hrest
    rw [hdigits, hlength] at hread
    rw [if_neg he, if_neg (fun h => he h.2), htext, List.append_assoc, List.cons_append]
    exact hread

lemma numberDraft_scientific {d : Decimal} (hplain : Binary64.isPlainInJson d.leading = false)
    (hrest : Follows rest) :
    numberDraft negative (d.scientific ++ rest) = (.number (decimalDraft negative d), rest) := by
  have hdigits : ∀ c ∈ Decimal.digitsText d.digits, c.isDigit = true :=
    Decimal.isDigit_of_mem_digitsText
  obtain ⟨c, es, htext⟩ := List.exists_cons_of_ne_nil (Decimal.digitsText_ne_nil d.digits)
  rw [htext] at hdigits
  have hleading : d.leading - es.length = d.exponent := by
    simp only [Decimal.leading, htext, List.length_cons]
    omega
  have hread := numberDraft_exponent negative (hdigits c (List.mem_cons_self ..))
    (fun e he => hdigits e (List.mem_cons_of_mem c he)) d.leading hrest
  rw [← htext, Decimal.ofDigits_digitsText, hleading] at hread
  unfold decimalDraft
  rw [if_neg (by simp [hplain]), ← hread]
  unfold Decimal.scientific
  rw [htext]
  cases es <;> simp

end ComponentQuery.Json
