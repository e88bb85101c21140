import ComponentQuery.Proofs.Number.Grammar

/-!
# The conversion of decimal numbers

A token that passes the test for decimal numbers may be handed, with its sign, to a general reader
of doubles, which is here `Binary64.ofText?`.  That reader scans from the left, where the test
splits at marks, and it is more liberal: it has words of its own for infinities and for what is
no number, and does not mind the case of their letters.

Neither makes a difference.  On numbers the scan and the test agree (`scanDecimal?_eq`), and
the test lets none of the words through.  The main result is `numericLiteral?_isSome_iff`: a token
is taken exactly if the grammar derives it, the double of a decimal number is the one that the
general reader gives, and that reader takes all that the test has passed.
-/

namespace ComponentQuery

/-! ## The general reader of doubles -/

/-- Takes a sign off a text, and tells whether it is a minus. -/
def afterSign : List Char → Bool × List Char
  | '-' :: cs => (true, cs)
  | '+' :: cs => (false, cs)
  | cs => (false, cs)

/-- The digits behind a point, if there is one, and what follows them. -/
def scanFraction : List Char → List Char × List Char
  | '.' :: cs => (cs.takeWhile Char.isDigit, cs.dropWhile Char.isDigit)
  | cs => ([], cs)

/-- The power of ten that the rest of a number is. -/
def scanPower? : List Char → Option Int
  | [] => some 0
  | letter :: cs => if letter = 'e' ∨ letter = 'E' then exponent? cs else none

/-- A decimal number without sign, scanned from the left: digits, perhaps a point and more digits,
and then the exponent or the end. -/
def scanDecimal? (cs : List Char) : Option Decimal :=
  let whole := cs.takeWhile Char.isDigit
  let (fraction, rest) := scanFraction (cs.dropWhile Char.isDigit)
  if whole ++ fraction = [] then none
  else (scanPower? rest).map fun power =>
    ⟨Decimal.ofDigits (whole ++ fraction), power - fraction.length⟩

/-- The words for doubles that have no digits, whatever the case of their letters. -/
def wordValue? (negative : Bool) (cs : List Char) : Option Binary64 :=
  let word := String.ofList (cs.map Char.toLower)
  if word = "inf" ∨ word = "infinity" then some (.infinite negative)
  else if word = "nan" then some .nan
  else none

/-- The double that a text denotes to a general reader: a number or a word, with an optional
sign. -/
def Binary64.ofText? (cs : List Char) : Option Binary64 :=
  let (negative, unsigned) := afterSign cs
  match scanDecimal? unsigned with
  | some d => some (.ofDecimal negative d.digits d.exponent)
  | none => wordValue? negative unsigned

/-! ## Scanning -/

/-- What a scan finds in front of the rest is a mantissa, if there are digits. -/
lemma mantissa_of_scan {cs fraction rest : List Char}
    (hscan : scanFraction (cs.dropWhile Char.isDigit) = (fraction, rest))
    (hne : cs.takeWhile Char.isDigit ++ fraction ≠ []) :
    ∃ m, cs = m ++ rest ∧
      Mantissa m (Decimal.ofDigits (cs.takeWhile Char.isDigit ++ fraction)) fraction.length := by
  have hcs : cs.takeWhile Char.isDigit ++ cs.dropWhile Char.isDigit = cs :=
    List.takeWhile_append_dropWhile
  have hwhole : ∀ c ∈ cs.takeWhile Char.isDigit, c.isDigit = true :=
    fun c hc => List.mem_takeWhile_imp hc
  generalize cs.takeWhile Char.isDigit = whole at hcs hwhole hne ⊢
  generalize cs.dropWhile Char.isDigit = tail at hcs hscan
  subst hcs
  unfold scanFraction at hscan
  split at hscan
  case h_1 tail =>
    obtain ⟨rfl, rfl⟩ := Prod.mk.inj hscan
    refine ⟨whole ++ '.' :: tail.takeWhile Char.isDigit, ?_, .pointed hne fun c hc => ?_⟩
    · rw [List.append_assoc, List.cons_append, List.takeWhile_append_dropWhile]
    · rcases List.mem_append.1 hc with hc | hc
      · exact hwhole c hc
      · exact List.mem_takeWhile_imp hc
  case h_2 =>
    obtain ⟨rfl, rfl⟩ := Prod.mk.inj hscan
    rw [List.append_nil] at hne ⊢
    exact ⟨whole, rfl, .whole hne hwhole⟩

/-- An exponent continues no run of digits, and is no point. -/
lemma Exponent.head {e : List Char} {power : Int} (he : Exponent e power) :
    ∀ c ∈ e.head?, c.isDigit = false ∧ c ≠ '.' := by
  cases he with
  | absent => simp
  | present hl =>
    intro c hc
    obtain rfl := Option.some.inj hc
    rcases hl with rfl | rfl <;> decide

lemma scan_of_mantissa {m e : List Char} {digits places : Nat} {power : Int}
    (hm : Mantissa m digits places) (he : Exponent e power) :
    ∃ fraction, scanFraction ((m ++ e).dropWhile Char.isDigit) = (fraction, e) ∧
      (m ++ e).takeWhile Char.isDigit ++ fraction ≠ [] ∧
      digits = Decimal.ofDigits ((m ++ e).takeWhile Char.isDigit ++ fraction) ∧
      places = fraction.length := by
  cases hm with
  | whole hne hds =>
    have hrun : IsRun Char.isDigit m e := ⟨hds, fun c hc => (he.head c hc).1⟩
    refine ⟨[], ?_, ?_⟩
    · rw [hrun.dropWhile_eq]
      unfold scanFraction
      split
      · exact absurd rfl (he.head '.' rfl).2
      · rfl
    · rw [hrun.takeWhile_eq, List.append_nil]
      exact ⟨hne, rfl, rfl⟩
  | @pointed ds es hne hds =>
    have hrun : IsRun Char.isDigit ds ('.' :: (es ++ e)) :=
      .before_cons (fun c hc => hds c (List.mem_append_left _ hc)) (by decide)
    have hfraction : IsRun Char.isDigit es e :=
      ⟨fun c hc => hds c (List.mem_append_right _ hc), fun c hc => (he.head c hc).1⟩
    rw [List.append_assoc, List.cons_append, hrun.dropWhile_eq, hrun.takeWhile_eq]
    refine ⟨es, ?_, hne, rfl, rfl⟩
    rw [scanFraction, hfraction.takeWhile_eq, hfraction.dropWhile_eq]

lemma scanPower?_eq_some_iff {cs : List Char} {power : Int} :
    scanPower? cs = some power ↔ Exponent cs power := by
  cases cs with
  | nil =>
    constructor
    · intro h
      obtain rfl := Option.some.inj h
      exact .absent
    · rintro ⟨⟩
      rfl
  | cons letter cs =>
    rw [scanPower?]
    constructor
    · intro h
      split at h
      case isTrue hl => exact .present hl (exponent?_eq_some_iff.1 h)
      case isFalse => simp at h
    · intro h
      cases h with
      | present hl hp => rw [if_pos hl, exponent?_eq_some_iff.2 hp]

/-- **Scanning takes what the test passes**, and finds the same decimal. -/
lemma scanDecimal?_eq (cs : List Char) : scanDecimal? cs = unsignedDecimal? cs := by
  refine Option.ext fun d => ?_
  rw [unsignedDecimal?_eq_some_iff]
  constructor
  · intro h
    unfold scanDecimal? at h
    dsimp only at h
    generalize hscan : scanFraction (cs.dropWhile Char.isDigit) = scanned at h
    obtain ⟨fraction, rest⟩ := scanned
    split at h
    case isTrue => simp at h
    case isFalse hne =>
      obtain ⟨power, hpower, rfl⟩ := Option.map_eq_some_iff.1 h
      obtain ⟨m, hcs, hm⟩ := mantissa_of_scan hscan hne
      exact ⟨m, rest, _, _, power, hcs, hm, scanPower?_eq_some_iff.1 hpower, rfl⟩
  · rintro ⟨m, e, digits, places, power, rfl, hm, he, rfl⟩
    obtain ⟨fraction, hscan, hne, rfl, rfl⟩ := scan_of_mantissa hm he
    unfold scanDecimal?
    dsimp only
    rw [hscan]
    dsimp only
    rw [if_neg hne, scanPower?_eq_some_iff.2 he]
    rfl

/-! ## Literals -/

lemma Binary64.ofText?_of_decimal {token : List Char} {d : Decimal}
    (hd : unsignedDecimal? (afterSign token).2 = some d) :
    ofText? token = some (.ofDecimal (afterSign token).1 d.digits d.exponent) := by
  unfold ofText?
  generalize afterSign token = split at hd ⊢
  obtain ⟨negative, unsigned⟩ := split
  dsimp only at hd ⊢
  rw [scanDecimal?_eq, hd]

lemma numericLiteral?_eq_or (token : List Char) :
    numericLiteral? token =
      (baseLiteral? token).or (magnitudeLiteral? (afterSign token).1 (afterSign token).2) := by
  unfold numericLiteral?
  cases baseLiteral? token with
  | some x => rfl
  | none =>
    dsimp only [Option.none_or]
    split
    case h_1 | h_2 => rfl
    case h_3 hminus hplus =>
      -- without a sign the text is its own unsigned part
      have hunsigned : afterSign token = (false, token) := by
        unfold afterSign
        split
        · exact (hminus _ rfl).elim
        · exact (hplus _ rfl).elim
        · rfl
      rw [hunsigned]

/-- **Numeric literals are those of the grammar**, and their decimal numbers can be left to a
general reader of doubles: it takes every number that has passed the test, and the words that only
it knows do not come before it. -/
theorem numericLiteral?_isSome_iff :
    (∀ token, (numericLiteral? token).isSome = true ↔ ∃ x, NumericLiteral token x) ∧
    (∀ token, (unsignedDecimal? (afterSign token).2).isSome = true →
      (Binary64.ofText? token).isSome = true) ∧
    ∀ token, numericLiteral? token =
      (baseLiteral? token).or
        (if (afterSign token).2 = "Infinity".toList then some (.infinite (afterSign token).1)
        else if (unsignedDecimal? (afterSign token).2).isSome then Binary64.ofText? token
        else none) := by
  refine ⟨fun token => ?_, fun token h => ?_, fun token => ?_⟩
  · rw [Option.isSome_iff_exists]
    exact exists_congr fun x => numericLiteral?_eq_some_iff
  · obtain ⟨d, hd⟩ := Option.isSome_iff_exists.1 h
    rw [Binary64.ofText?_of_decimal hd]
    rfl
  · rw [numericLiteral?_eq_or, magnitudeLiteral?]
    cases hd : unsignedDecimal? (afterSign token).2 with
    | none => rfl
    | some d => rw [Binary64.ofText?_of_decimal hd]; rfl

/-- A sign, a point without digits before it, and an exponent with a sign of its own. -/
theorem numericLiteral?_isSome_iff_decimal :
    (unsignedDecimal? (afterSign "-.5E+3".toList).2).isSome = true ∧
      (Binary64.ofText? "-.5E+3".toList).isSome = true ∧
      ∃ x, NumericLiteral "-.5E+3".toList x := by
  obtain ⟨hgrammar, hconversion, -⟩ := numericLiteral?_isSome_iff
  have hpassed : (unsignedDecimal? (afterSign "-.5E+3".toList).2).isSome = true := by decide
  have htaken : (numericLiteral? "-.5E+3".toList).isSome = true := by decide +kernel
  exact ⟨hpassed, hconversion _ hpassed, (hgrammar _).1 htaken⟩

/-- The words of the general reader, and what looks like a number to others. -/
example :
    (∀ word ∈ ["inf", "-Infinity", "+NaN"], (Binary64.ofText? word.toList).isSome = true) ∧
      ∀ word ∈ ["", "NaN", "inf", "infinity", "1_0", "-0x1", "+-1", "1e2e3", "1.2.3", "٣", "0xe.5"],
        numericLiteral? word.toList = none := by
  decide +kernel

end ComponentQuery
