import ComponentQuery.Number.Literal
import ComponentQuery.Proofs.Number.Rounding
import ComponentQuery.Proofs.Text.Run
import Mathlib.Data.List.Forall2
import Mathlib.Tactic.IntervalCases

/-!
# The grammar of numeric literals

What a numeric literal is, without reference to how one is read.  A literal is

* an optional sign and the word `Infinity`,
* an optional sign, a mantissa and an optional exponent, or
* a zero, the letter of a base, and at least one digit of that base.

Each rule carries the double that its literal denotes.  The main result is
`numericLiteral?_eq_some_iff`: the reader gives a double for a token exactly if a rule derives
the token with that double.  The first two kinds begin with a sign, a digit, a point or a capital
`I`, and no decimal number has a letter other than that of an exponent, so that
no token is a literal of two kinds.

The double is always a number, `NumericLiteral.isNaN_eq_false`, however many digits there are.
-/

namespace ComponentQuery

/-! ## The rules -/

/-- An optional sign, and whether it is a minus. -/
inductive Sign : List Char → Bool → Prop where
  | absent : Sign [] false
  | plus : Sign ['+'] false
  | minus : Sign ['-'] true

/-- Digits with at most one point among or around them, the number that they are without
the point, and how many of them are behind it. -/
inductive Mantissa : List Char → Nat → Nat → Prop where
  | whole {ds : List Char} (hne : ds ≠ []) (hds : ∀ c ∈ ds, c.isDigit = true) :
      Mantissa ds (Decimal.ofDigits ds) 0
  | pointed {ds es : List Char} (hne : ds ++ es ≠ [])
      (hds : ∀ c ∈ ds ++ es, c.isDigit = true) :
      Mantissa (ds ++ '.' :: es) (Decimal.ofDigits (ds ++ es)) es.length

/-- The power of ten that a sign and digits are. -/
inductive Power : List Char → Int → Prop where
  | intro {sign ds : List Char} {negative : Bool} (hs : Sign sign negative) (hne : ds ≠ [])
      (hds : ∀ c ∈ ds, c.isDigit = true) :
      Power (sign ++ ds) (if negative then -(Decimal.ofDigits ds : Int) else Decimal.ofDigits ds)

/-- An optional exponent, and the power of ten that it is. -/
inductive Exponent : List Char → Int → Prop where
  | absent : Exponent [] 0
  | present {letter : Char} {cs : List Char} {power : Int} (hl : letter = 'e' ∨ letter = 'E')
      (hp : Power cs power) : Exponent (letter :: cs) power

/-- A character that is the digit of a value in a base. -/
def IsDigitOf (base : Nat) (c : Char) (d : Nat) : Prop :=
  d < base ∧ (c = Nat.digitChar d ∨ c = (Nat.digitChar d).toUpper)

/-- A letter that announces a base. -/
inductive BaseLetter : Char → Nat → Prop where
  | hexadecimal {c : Char} (hc : c = 'x' ∨ c = 'X') : BaseLetter c 16
  | octal {c : Char} (hc : c = 'o' ∨ c = 'O') : BaseLetter c 8
  | binary {c : Char} (hc : c = 'b' ∨ c = 'B') : BaseLetter c 2

/-- The double that digits of a base make, one after the other. -/
def foldDigits (base : Nat) (acc : Binary64) (ds : List Nat) : Binary64 :=
  ds.foldl (fun x d => x * .ofInt base + .ofInt d) acc

/-- A numeric literal and the double that it denotes. -/
inductive NumericLiteral : List Char → Binary64 → Prop where
  | infinity {sign : List Char} {negative : Bool} (hs : Sign sign negative) :
      NumericLiteral (sign ++ "Infinity".toList) (.infinite negative)
  | decimal {sign m e : List Char} {negative : Bool} {digits places : Nat} {power : Int}
      (hs : Sign sign negative) (hm : Mantissa m digits places) (he : Exponent e power) :
      NumericLiteral (sign ++ (m ++ e)) (.ofDecimal negative digits (power - places))
  | based {letter : Char} {base : Nat} {cs : List Char} {ds : List Nat}
      (hl : BaseLetter letter base) (hne : cs ≠ []) (hds : List.Forall₂ (IsDigitOf base) cs ds) :
      NumericLiteral ('0' :: letter :: cs) (foldDigits base (.zero false) ds)

/-! ## Digits -/

lemma digitValue?_eq_some_iff {base : Nat} (hb : base ≤ 16) {c : Char} {d : Nat} :
    digitValue? base c = some d ↔ IsDigitOf base c d := by
  unfold digitValue? IsDigitOf
  simp only [Option.filter_eq_some_iff, decide_eq_true_eq]
  constructor
  · rintro ⟨hv, hd⟩
    refine ⟨hd, ?_⟩
    have hc : c = Char.ofNat c.toNat := (Char.ofNat_toNat c).symm
    -- Each of the three ranges of characters is short, so its digits can be gone through.
    split_ifs at hv with h₁ h₂ h₃
    · obtain ⟨hlo, hhi⟩ : 48 ≤ c.toNat ∧ c.toNat ≤ 57 := Char.isDigit_iff_toNat.1 h₁
      obtain rfl := Option.some.inj hv
      rw [hc]
      generalize c.toNat = n at hlo hhi
      interval_cases n <;> exact .inl rfl
    · obtain ⟨hlo, hhi⟩ : 97 ≤ c.toNat ∧ c.toNat ≤ 102 := h₂
      obtain rfl := Option.some.inj hv
      rw [hc]
      generalize c.toNat = n at hlo hhi
      interval_cases n <;> exact .inl rfl
    · obtain ⟨hlo, hhi⟩ : 65 ≤ c.toNat ∧ c.toNat ≤ 70 := h₃
      obtain rfl := Option.some.inj hv
      rw [hc]
      generalize c.toNat = n at hlo hhi
      interval_cases n <;> exact .inr rfl
  · rintro ⟨hd, h⟩
    refine ⟨?_, hd⟩
    have hd16 : d < 16 := by omega
    clear hd
    interval_cases d <;> rcases h with rfl | rfl <;> rfl

lemma foldDigits?_eq_some_iff {base : Nat} (hb : base ≤ 16) {cs : List Char}
    {acc x : Binary64} :
    foldDigits? base acc cs = some x ↔
      ∃ ds, List.Forall₂ (IsDigitOf base) cs ds ∧ x = foldDigits base acc ds := by
  induction cs generalizing acc with
  | nil => simp [foldDigits?, foldDigits, List.forall₂_nil_left_iff, eq_comm]
  | cons c cs ih =>
    simp only [foldDigits?]
    cases hd : digitValue? base c with
    | none =>
      simp only [reduceCtorEq, false_iff, not_exists, not_and]
      rintro _ (_ | ⟨hc, -⟩)
      rw [← digitValue?_eq_some_iff hb, hd] at hc
      simp at hc
    | some d =>
      simp only [ih]
      constructor
      · rintro ⟨ds, hds, rfl⟩
        exact ⟨d :: ds, .cons ((digitValue?_eq_some_iff hb).1 hd) hds, rfl⟩
      · rintro ⟨_, _ | ⟨hc, hds⟩, rfl⟩
        rw [← digitValue?_eq_some_iff hb, hd] at hc
        obtain rfl := Option.some.inj hc
        exact ⟨_, hds, rfl⟩

lemma baseOfLetter?_eq_some_iff {c : Char} {base : Nat} :
    baseOfLetter? c = some base ↔ BaseLetter c base := by
  constructor
  · intro h
    unfold baseOfLetter? at h
    split at h <;> simp only [Option.some.injEq, reduceCtorEq] at h <;> subst h
    · exact .hexadecimal (.inl rfl)
    · exact .hexadecimal (.inr rfl)
    · exact .octal (.inl rfl)
    · exact .octal (.inr rfl)
    · exact .binary (.inl rfl)
    · exact .binary (.inr rfl)
  · rintro (hc | hc | hc) <;> rcases hc with rfl | rfl <;> rfl

lemma BaseLetter.pos {c : Char} {base : Nat} (h : BaseLetter c base) : 0 < base := by
  cases h <;> decide

lemma BaseLetter.le_sixteen {c : Char} {base : Nat} (h : BaseLetter c base) : base ≤ 16 := by
  cases h <;> omega

lemma baseLiteral?_eq_some_iff {token : List Char} {x : Binary64} :
    baseLiteral? token = some x ↔
      ∃ letter base cs ds, token = '0' :: letter :: cs ∧ BaseLetter letter base ∧ cs ≠ [] ∧
        List.Forall₂ (IsDigitOf base) cs ds ∧ x = foldDigits base (.zero false) ds := by
  constructor
  · fun_cases baseLiteral? token with
    | case1 => simp
    | case2 letter c cs base hl =>
      intro h
      have hl := baseOfLetter?_eq_some_iff.1 hl
      obtain ⟨ds, hds, rfl⟩ := (foldDigits?_eq_some_iff hl.le_sixteen).1 h
      exact ⟨letter, base, c :: cs, ds, rfl, hl, List.cons_ne_nil _ _, hds, rfl⟩
    | case3 => simp
  · rintro ⟨letter, base, _ | ⟨c, cs⟩, ds, rfl, hl, hne, hds, rfl⟩
    · exact absurd rfl hne
    · simp only [baseLiteral?, baseOfLetter?_eq_some_iff.2 hl]
      exact (foldDigits?_eq_some_iff hl.le_sixteen).2 ⟨ds, hds, rfl⟩

/-! ## Decimal numbers -/

lemma splitAtFirst_of_forall_not {p : Char → Bool} {cs : List Char}
    (h : ∀ c ∈ cs, p c = false) : splitAtFirst p cs = (cs, none) := by
  have hrun : IsRun (!p ·) cs [] := .to_end fun c hc => by simp [h c hc]
  have htake := hrun.takeWhile_eq
  have hdrop := hrun.dropWhile_eq
  rw [List.append_nil] at htake hdrop
  simp [splitAtFirst, htake, hdrop]

lemma splitAtFirst_append {p : Char → Bool} {cs rest : List Char} {mark : Char}
    (h : ∀ c ∈ cs, p c = false) (hm : p mark = true) :
    splitAtFirst p (cs ++ mark :: rest) = (cs, some rest) := by
  have hrun : IsRun (!p ·) cs (mark :: rest) :=
    .before_cons (fun c hc => by simp [h c hc]) (by simp [hm])
  simp [splitAtFirst, hrun.takeWhile_eq, hrun.dropWhile_eq]

lemma splitAtFirst_cases (p : Char → Bool) (cs : List Char) :
    (splitAtFirst p cs = (cs, none) ∧ ∀ c ∈ cs, p c = false) ∨
      ∃ before mark after, cs = before ++ mark :: after ∧ p mark = true ∧
        (∀ c ∈ before, p c = false) ∧ splitAtFirst p cs = (before, some after) := by
  have hrun := isRun_takeWhile (!p ·) cs
  have hcs : cs.takeWhile (!p ·) ++ cs.dropWhile (!p ·) = cs := List.takeWhile_append_dropWhile
  generalize cs.takeWhile (!p ·) = before at hrun hcs
  generalize cs.dropWhile (!p ·) = rest at hrun hcs
  have hbefore : ∀ c ∈ before, p c = false := fun c hc => by simpa using hrun.all c hc
  cases rest with
  | nil =>
    obtain rfl : before = cs := by simpa using hcs
    exact .inl ⟨splitAtFirst_of_forall_not hbefore, hbefore⟩
  | cons mark after =>
    have hmark : p mark = true := by simpa using hrun.maximal mark rfl
    subst hcs
    exact .inr ⟨before, mark, after, rfl, hmark, hbefore, splitAtFirst_append hbefore hmark⟩

lemma exponent?_eq_some_iff {cs : List Char} {power : Int} :
    exponent? cs = some power ↔ Power cs power := by
  constructor
  · fun_cases exponent? cs with
    | case1 negative ds hsplit hds =>
      rintro ⟨⟩
      obtain ⟨hne, hall⟩ := hds
      split at hsplit <;> obtain ⟨rfl, rfl⟩ := Prod.mk.inj hsplit
      · exact .intro .minus hne (List.all_eq_true.1 hall)
      · exact .intro .plus hne (List.all_eq_true.1 hall)
      · exact .intro .absent hne (List.all_eq_true.1 hall)
    | case2 => simp
  · rintro (@⟨sign, ds, negative, hs, hne, hds⟩)
    have hall : ds ≠ [] ∧ ds.all Char.isDigit = true := ⟨hne, List.all_eq_true.2 hds⟩
    cases hs with
    | plus => simp only [exponent?, List.singleton_append, if_pos hall]
    | minus => simp only [exponent?, List.singleton_append, if_pos hall]
    | absent =>
      obtain ⟨c, ds, rfl⟩ := List.exists_cons_of_ne_nil hne
      have hc : c.isDigit = true := hds c (List.mem_cons_self ..)
      have hminus : c ≠ '-' := by rintro rfl; simp at hc
      have hplus : c ≠ '+' := by rintro rfl; simp at hc
      simp_all [exponent?]

/-- Whether a character is the mark of an exponent. -/
def isExponentMark (c : Char) : Bool := c == 'e' || c == 'E'

lemma isExponentMark_iff {c : Char} : isExponentMark c = true ↔ c = 'e' ∨ c = 'E' := by
  simp [isExponentMark]

lemma isExponentMark_of_isDigit {c : Char} (h : c.isDigit = true) : isExponentMark c = false := by
  have : c ≠ 'e' := by rintro rfl; simp at h
  have : c ≠ 'E' := by rintro rfl; simp at h
  simp_all [isExponentMark]

/-- The digits that the reader takes from a mantissa: those before and behind the point. -/
def mantissaDigits (cs : List Char) : List Char × List Char :=
  let (ds, es) := splitAtFirst (· == '.') cs
  (ds, es.getD [])

lemma mantissa_iff {cs : List Char} {digits places : Nat} :
    Mantissa cs digits places ↔
      ((mantissaDigits cs).1 ++ (mantissaDigits cs).2 ≠ [] ∧
        ∀ c ∈ (mantissaDigits cs).1 ++ (mantissaDigits cs).2, c.isDigit = true) ∧
      digits = Decimal.ofDigits ((mantissaDigits cs).1 ++ (mantissaDigits cs).2) ∧
      places = (mantissaDigits cs).2.length := by
  have hpoint : ∀ {ds : List Char}, (∀ c ∈ ds, c.isDigit = true) →
      ∀ c ∈ ds, (c == '.') = false := by
    intro ds hds c hc
    have : c ≠ '.' := by rintro rfl; simpa using hds _ hc
    simpa using this
  constructor
  · intro h
    cases h with
    | whole hne hds =>
      simp only [mantissaDigits, splitAtFirst_of_forall_not (hpoint hds)]
      simpa using ⟨hne, hds⟩
    | @pointed ds es hne hds =>
      have hbefore := hpoint fun c hc => hds c (List.mem_append_left es hc)
      simp only [mantissaDigits, splitAtFirst_append hbefore (beq_self_eq_true '.')]
      exact ⟨⟨hne, hds⟩, rfl, rfl⟩
  · rintro ⟨⟨hne, hds⟩, rfl, rfl⟩
    rcases splitAtFirst_cases (· == '.') cs with ⟨hs, -⟩ | ⟨ds, mark, es, rfl, hm, -, hs⟩
    · simp only [mantissaDigits, hs, Option.getD_none, List.append_nil] at hne hds ⊢
      exact .whole hne hds
    · obtain rfl : mark = '.' := by simpa using hm
      simp only [mantissaDigits, hs, Option.getD_some] at hne hds ⊢
      exact .pointed hne hds

lemma Mantissa.forall_not_mark {cs : List Char} {digits places : Nat}
    (h : Mantissa cs digits places) : ∀ c ∈ cs, isExponentMark c = false := by
  intro c hc
  cases h with
  | whole _ hds => exact isExponentMark_of_isDigit (hds c hc)
  | pointed _ hds =>
    rcases List.mem_append.1 hc with hc | hc
    · exact isExponentMark_of_isDigit (hds c (List.mem_append_left _ hc))
    · rcases List.mem_cons.1 hc with rfl | hc
      · rfl
      · exact isExponentMark_of_isDigit (hds c (List.mem_append_right _ hc))

lemma unsignedDecimal?_of_none {cs m : List Char} (h : splitAtFirst isExponentMark cs = (m, none)) :
    unsignedDecimal? cs =
      let ds := (mantissaDigits m).1 ++ (mantissaDigits m).2
      if ds ≠ [] ∧ ds.all Char.isDigit = true then
        some ⟨Decimal.ofDigits ds, -((mantissaDigits m).2.length : Int)⟩
      else none := by
  have hs : splitAtFirst (fun c => c == 'e' || c == 'E') cs = (m, none) := h
  unfold unsignedDecimal?
  rw [hs]
  rfl

lemma unsignedDecimal?_of_some {cs m e : List Char}
    (h : splitAtFirst isExponentMark cs = (m, some e)) :
    unsignedDecimal? cs =
      let ds := (mantissaDigits m).1 ++ (mantissaDigits m).2
      if ds ≠ [] ∧ ds.all Char.isDigit = true then
        (exponent? e).map fun e => ⟨Decimal.ofDigits ds, e - (mantissaDigits m).2.length⟩
      else none := by
  have hs : splitAtFirst (fun c => c == 'e' || c == 'E') cs = (m, some e) := h
  unfold unsignedDecimal?
  rw [hs]
  rfl

lemma unsignedDecimal?_eq_some_iff {cs : List Char} {d : Decimal} :
    unsignedDecimal? cs = some d ↔
      ∃ m e digits places power, cs = m ++ e ∧ Mantissa m digits places ∧
        Exponent e power ∧ d = ⟨digits, power - places⟩ := by
  constructor
  · intro h
    rcases splitAtFirst_cases isExponentMark cs with ⟨hs, -⟩ | ⟨m, mark, e, rfl, hm, -, hs⟩
    · simp only [unsignedDecimal?_of_none hs, Option.ite_none_right_eq_some] at h
      obtain ⟨⟨hne, hds⟩, h⟩ := h
      obtain rfl := Option.some.inj h
      exact ⟨cs, [], _, _, 0, (List.append_nil cs).symm,
        mantissa_iff.2 ⟨⟨hne, List.all_eq_true.1 hds⟩, rfl, rfl⟩, .absent, by simp⟩
    · simp only [unsignedDecimal?_of_some hs, Option.ite_none_right_eq_some] at h
      obtain ⟨⟨hne, hds⟩, h⟩ := h
      obtain ⟨power, hp, rfl⟩ := Option.map_eq_some_iff.1 h
      exact ⟨m, mark :: e, _, _, power, rfl,
        mantissa_iff.2 ⟨⟨hne, List.all_eq_true.1 hds⟩, rfl, rfl⟩,
        .present (isExponentMark_iff.1 hm) (exponent?_eq_some_iff.1 hp), rfl⟩
  · rintro ⟨m, e, digits, places, power, rfl, hm, he, rfl⟩
    obtain ⟨⟨hne, hds⟩, rfl, rfl⟩ := mantissa_iff.1 hm
    have hall := And.intro hne (List.all_eq_true.2 hds)
    rcases he with _ | ⟨hl, hp⟩
    · have hs := splitAtFirst_of_forall_not hm.forall_not_mark
      rw [List.append_nil, unsignedDecimal?_of_none hs]
      simp only [if_pos hall]
      simp
    · rw [unsignedDecimal?_of_some
        (splitAtFirst_append hm.forall_not_mark (isExponentMark_iff.2 hl))]
      simp only [if_pos hall, exponent?_eq_some_iff.2 hp, Option.map_some]

/-! ## Literals -/

/-- The characters of a decimal number. -/
def IsDecimalChar (c : Char) : Prop := c.isDigit = true ∨ c ∈ ['.', 'e', 'E', '+', '-']

lemma Sign.forall_char {cs : List Char} {negative : Bool} (h : Sign cs negative) :
    ∀ c ∈ cs, IsDecimalChar c := by
  cases h <;> simp [IsDecimalChar]

lemma Mantissa.forall_char {cs : List Char} {digits places : Nat} (h : Mantissa cs digits places) :
    ∀ c ∈ cs, IsDecimalChar c := by
  rcases h with ⟨-, hds⟩ | ⟨-, hds⟩
  · exact fun c hc => .inl (hds c hc)
  · intro c hc
    by_cases hp : c = '.'
    · exact .inr (by simp [hp])
    · exact .inl (hds c (by simpa [hp] using hc))

lemma Exponent.forall_char {cs : List Char} {power : Int} (h : Exponent cs power) :
    ∀ c ∈ cs, IsDecimalChar c := by
  rcases h with _ | ⟨hl, ⟨hs, -, hds⟩⟩
  · simp
  · intro c hc
    rcases List.mem_cons.1 hc with rfl | hc
    · exact .inr (by rcases hl with rfl | rfl <;> simp)
    · rcases List.mem_append.1 hc with hc | hc
      · exact hs.forall_char c hc
      · exact .inl (hds c hc)

lemma Mantissa.exists_head {cs : List Char} {digits places : Nat}
    (h : Mantissa cs digits places) :
    ∃ c cs', cs = c :: cs' ∧ (c.isDigit = true ∨ c = '.') := by
  cases h with
  | whole hne hds =>
    obtain ⟨c, cs', rfl⟩ := List.exists_cons_of_ne_nil hne
    exact ⟨c, cs', rfl, .inl (hds c (List.mem_cons_self ..))⟩
  | @pointed ds es _ hds =>
    cases ds with
    | nil => exact ⟨'.', es, rfl, .inr rfl⟩
    | cons c ds => exact ⟨c, _, rfl, .inl (hds c (List.mem_cons_self ..))⟩

lemma BaseLetter.not_isDecimalChar {c : Char} {base : Nat} (h : BaseLetter c base) :
    ¬ IsDecimalChar c := by
  rcases h with hc | hc | hc <;> rcases hc with rfl | rfl <;> simp [IsDecimalChar]

/-- What stands behind the sign of a literal without a base. -/
inductive Magnitude (negative : Bool) : List Char → Binary64 → Prop where
  | infinity : Magnitude negative "Infinity".toList (.infinite negative)
  | decimal {m e : List Char} {digits places : Nat} {power : Int}
      (hm : Mantissa m digits places) (he : Exponent e power) :
      Magnitude negative (m ++ e) (.ofDecimal negative digits (power - places))

lemma magnitudeLiteral?_eq_some_iff {negative : Bool} {cs : List Char} {x : Binary64} :
    magnitudeLiteral? negative cs = some x ↔ Magnitude negative cs x := by
  constructor
  · fun_cases magnitudeLiteral? negative cs with
    | case1 hword =>
      rintro ⟨⟩
      exact hword ▸ .infinity
    | case2 =>
      intro h
      obtain ⟨d, hd, rfl⟩ := Option.map_eq_some_iff.1 h
      obtain ⟨m, e, digits, places, power, rfl, hm, he, rfl⟩ := unsignedDecimal?_eq_some_iff.1 hd
      exact .decimal hm he
  · intro h
    cases h with
    | infinity => exact if_pos rfl
    | @decimal m e _ _ _ hm he =>
      have hword : m ++ e ≠ "Infinity".toList := by
        obtain ⟨c, m, rfl, hc⟩ := hm.exists_head
        intro heq
        obtain rfl : c = 'I' := (List.cons.inj heq).1
        simp at hc
      rw [magnitudeLiteral?, if_neg hword,
        unsignedDecimal?_eq_some_iff.2 ⟨m, e, _, _, _, rfl, hm, he, rfl⟩]
      rfl

lemma Magnitude.exists_head {negative : Bool} {cs : List Char} {x : Binary64}
    (h : Magnitude negative cs x) : ∃ c cs', cs = c :: cs' ∧ c ≠ '-' ∧ c ≠ '+' := by
  cases h with
  | infinity => exact ⟨'I', "nfinity".toList, rfl, by decide, by decide⟩
  | @decimal m e _ _ _ hm _ =>
    obtain ⟨c, m, rfl, hc⟩ := hm.exists_head
    refine ⟨c, m ++ e, rfl, ?_, ?_⟩ <;> rintro rfl <;> simp at hc

lemma numericLiteral_iff {token : List Char} {x : Binary64} :
    NumericLiteral token x ↔
      (∃ sign negative cs, token = sign ++ cs ∧ Sign sign negative ∧ Magnitude negative cs x) ∨
      baseLiteral? token = some x := by
  rw [baseLiteral?_eq_some_iff]
  constructor
  · rintro (hs | ⟨hs, hm, he⟩ | ⟨hl, hne, hds⟩)
    · exact .inl ⟨_, _, _, rfl, hs, .infinity⟩
    · exact .inl ⟨_, _, _, rfl, hs, .decimal hm he⟩
    · exact .inr ⟨_, _, _, _, rfl, hl, hne, hds, rfl⟩
  · rintro (⟨sign, negative, cs, rfl, hs, _ | ⟨hm, he⟩⟩ | ⟨_, _, _, _, rfl, hl, hne, hds, rfl⟩)
    · exact .infinity hs
    · exact .decimal hs hm he
    · exact .based hl hne hds

/-- A literal with a sign of its own or without a base is none with a base. -/
lemma baseLiteral?_eq_none {sign cs : List Char} {negative : Bool} {x : Binary64}
    (hs : Sign sign negative) (hm : Magnitude negative cs x) :
    baseLiteral? (sign ++ cs) = none := by
  by_contra hsome
  obtain ⟨y, hy⟩ := Option.ne_none_iff_exists'.1 hsome
  obtain ⟨letter, base, ds, vs, htoken, hl, -⟩ := baseLiteral?_eq_some_iff.1 hy
  rcases hm with _ | ⟨hm, he⟩
  · cases hs <;> simp at htoken
  · refine hl.not_isDecimalChar ?_
    have hmem : letter ∈ '0' :: letter :: ds := by simp
    rw [← htoken] at hmem
    rcases List.mem_append.1 hmem with hmem | hmem
    · exact hs.forall_char _ hmem
    · rcases List.mem_append.1 hmem with hmem | hmem
      · exact hm.forall_char _ hmem
      · exact he.forall_char _ hmem

/-- **The reader of numeric literals is exact.**  It gives a double for a token if and only if
the rules derive the token with that double. -/
theorem numericLiteral?_eq_some_iff {token : List Char} {x : Binary64} :
    numericLiteral? token = some x ↔ NumericLiteral token x := by
  rw [numericLiteral_iff]
  constructor
  · fun_cases numericLiteral? token with
    | case1 token y hb => exact fun h => .inr (hb.trans h)
    | case2 cs => exact fun h => .inl ⟨_, _, _, rfl, .minus, magnitudeLiteral?_eq_some_iff.1 h⟩
    | case3 cs => exact fun h => .inl ⟨_, _, _, rfl, .plus, magnitudeLiteral?_eq_some_iff.1 h⟩
    | case4 cs => exact fun h => .inl ⟨_, _, _, rfl, .absent, magnitudeLiteral?_eq_some_iff.1 h⟩
  · rintro (⟨sign, negative, cs, rfl, hs, hm⟩ | hb)
    · unfold numericLiteral?
      rw [baseLiteral?_eq_none hs hm]
      cases hs with
      | minus => exact magnitudeLiteral?_eq_some_iff.2 hm
      | plus => exact magnitudeLiteral?_eq_some_iff.2 hm
      | absent =>
        obtain ⟨c, cs, rfl, hminus, hplus⟩ := hm.exists_head
        simpa [hminus, hplus] using magnitudeLiteral?_eq_some_iff.2 hm
    · unfold numericLiteral?
      rw [hb]

/-! ## Literals are numbers -/

namespace Binary64

lemma beq_self_of_isNaN {x : Binary64} (h : x.isNaN = false) : (x == x) = true := by
  cases x with
  | nan => simp [isNaN] at h
  | infinite _ => simp [BEq.beq, eq]
  | finite _ _ _ => simp [BEq.beq, eq]

lemma isNaN_ofQuotient (negative : Bool) (num den : Nat) :
    (ofQuotient negative num den).isNaN = false := by
  unfold ofQuotient
  split <;> rfl

lemma isNaN_ofDecimal (negative : Bool) (digits : Nat) (exponent : Int) :
    (ofDecimal negative digits exponent).isNaN = false := by
  unfold ofDecimal
  split_ifs
  · rfl
  · rfl
  · rfl
  · exact isNaN_ofQuotient ..
  · exact isNaN_ofQuotient ..

lemma exists_ofInt_eq_finite {n : Nat} (hn : n ≤ 16) :
    ∃ h, ofInt n = .finite false (n * Nat.pow 2 quantumBits) h := by
  have hprecise : Precise (n * Nat.pow 2 quantumBits) :=
    precise_mul_pow n quantumBits (Nat.le_trans hn (by decide))
  have hlt : n * Nat.pow 2 quantumBits < overflow :=
    Nat.lt_of_le_of_lt (Nat.mul_le_mul_right _ hn) (by decide +kernel)
  refine ⟨⟨hprecise, hlt⟩, ?_⟩
  have hsign : decide ((n : Int) < 0) = false := by simp
  rw [ofInt, hsign, Int.natAbs_natCast]
  exact ofQuotient_of_fits false ⟨hprecise, hlt⟩

/-- One more digit makes a number of a number: an infinity stays one, as the base is not zero. -/
lemma isNaN_mul_add {x : Binary64} (hx : x.isNaN = false) {base d : Nat} (hpos : 0 < base)
    (hbase : base ≤ 16) (hd : d < base) : (x * .ofInt base + .ofInt d).isNaN = false := by
  obtain ⟨hfits, hofInt⟩ := exists_ofInt_eq_finite hbase
  obtain ⟨hfits', hofInt'⟩ := exists_ofInt_eq_finite (Nat.le_trans (Nat.le_of_lt hd) hbase)
  have hadd : ∀ {y : Binary64} {r : Nat} {h : Fits r}, y.isNaN = false →
      (add y (.finite false r h)).isNaN = false := by
    intro y r h hy
    cases y with
    | nan => simp [isNaN] at hy
    | infinite s => rfl
    | finite s q hq =>
      simp only [add]
      split_ifs
      · rfl
      · exact isNaN_ofQuotient ..
  rw [hofInt, hofInt']
  refine hadd (y := mul x _) ?_
  cases x with
  | nan => simp [isNaN] at hx
  | infinite s =>
    have hne : base * Nat.pow 2 quantumBits ≠ 0 :=
      Nat.mul_ne_zero (Nat.ne_of_gt hpos) (Nat.ne_of_gt (pow_two_pos _))
    simp only [mul, if_neg hne]
    rfl
  | finite s q hq => exact isNaN_ofQuotient ..

end Binary64

lemma isNaN_foldDigits {base : Nat} (hpos : 0 < base) (hbase : base ≤ 16) {cs : List Char}
    {ds : List Nat} (hds : List.Forall₂ (IsDigitOf base) cs ds) {acc : Binary64}
    (hacc : acc.isNaN = false) : (foldDigits base acc ds).isNaN = false := by
  induction hds generalizing acc with
  | nil => exact hacc
  | cons hc _ ih => exact ih (Binary64.isNaN_mul_add hacc hpos hbase hc.1)

/-- **Every numeric literal denotes a number**, if perhaps an infinity. -/
lemma NumericLiteral.isNaN_eq_false {token : List Char} {x : Binary64}
    (h : NumericLiteral token x) : x.isNaN = false := by
  cases h with
  | infinity => rfl
  | decimal => exact Binary64.isNaN_ofDecimal ..
  | based hl _ hds => exact isNaN_foldDigits hl.pos hl.le_sixteen hds rfl

end ComponentQuery
