import Mathlib.Data.List.Basic
import ComponentQuery.Matching.Acceptance

/-!
# What satisfies a comparison

The relations between texts are decided by searching, by cutting off and by splitting.  What they
mean is said here by the parts into which the text of a property falls around the given text
(`TextRelation.Parts`), and the meaning of a comparison by one rule for each kind of operand and
value that can go together (`Comparison.SatisfiedBy`).  No rule has a value of another kind, and
none has `null`.

The main result is `Predicate.holds_iff_satisfiedBy`: the tests decide these rules.  For one and the
same operand it follows in which order the operators ask for more and more: a text that is equal has
the dash prefix, it then begins with the operand, and then contains it.

The only test with a recursion of its own besides the search is the splitting at spaces.
`mem_splitOn_iff` says which texts stand between spaces; the induction is on the length of the text,
which is cut at its first space.
-/

namespace ComponentQuery

/-! ## Parts of texts -/

/-- How a text falls into parts around a given text, to which it has a relation. -/
inductive TextRelation.Parts : TextRelation → (subject given : List Char) → Prop where
  | contains (a v b : List Char) : Parts contains (a ++ v ++ b) v
  | startsWith (v b : List Char) : Parts startsWith (v ++ b) v
  | endsWith (a v : List Char) : Parts endsWith (a ++ v) v
  | whole (v : List Char) : Parts dashPrefix v v
  | dashed (v b : List Char) : Parts dashPrefix (v ++ '-' :: b) v
  /-- On both sides stands a space or nothing. -/
  | token {a v b : List Char} (hv : ' ' ∉ v) (ha : ∀ c ∈ a.getLast?, c = ' ')
      (hb : ∀ c ∈ b.head?, c = ' ') : Parts token (a ++ v ++ b) v

/-- What stands between two spaces, or between a space and an end, or is a text without spaces. -/
lemma mem_splitOn_iff {s v : List Char} :
    v ∈ s.splitOn ' ' ↔
      ' ' ∉ v ∧ ∃ a b, s = a ++ v ++ b ∧ (∀ c ∈ a.getLast?, c = ' ') ∧ ∀ c ∈ b.head?, c = ' ' := by
  constructor
  · intro h
    generalize hn : s.length = n
    -- By induction on the length: what is taken off is the text before the first space, with that
    -- space.
    induction n using Nat.strongRecOn generalizing s with
    | ind n ih =>
      by_cases hspace : ' ' ∈ s
      · obtain ⟨before, after, hs, hbefore⟩ := List.eq_append_cons_of_mem hspace
        subst hs
        rw [List.splitOn_append_cons_self_of_not_mem hbefore, List.mem_cons] at h
        rcases h with rfl | h
        · exact ⟨hbefore, [], ' ' :: after, by simp, by simp, by simp⟩
        · have hlt : after.length < n := by
            simp only [← hn, List.length_append, List.length_cons]
            omega
          obtain ⟨hv, a, b, rfl, ha, hb⟩ := ih _ hlt h rfl
          refine ⟨hv, before ++ ' ' :: a, b, by simp, ?_, hb⟩
          intro c hc
          rw [List.getLast?_append_of_ne_nil _ (List.cons_ne_nil _ _)] at hc
          cases a with
          | nil => simpa using hc.symm
          | cons d a =>
            rw [List.getLast?_cons_cons] at hc
            exact ha c hc
      · rw [List.splitOn_eq_singleton hspace, List.mem_singleton] at h
        subst h
        exact ⟨hspace, [], [], by simp, by simp, by simp⟩
  · rintro ⟨hv, a, b, rfl, ha, hb⟩
    -- Behind the space that ends `a`, the value is the first of the parts.
    have hfront : v ∈ (v ++ b).splitOn ' ' := by
      cases b with
      | nil => simp [List.splitOn_eq_singleton hv]
      | cons c b =>
        obtain rfl : c = ' ' := hb c rfl
        simp [List.splitOn_append_cons_self_of_not_mem hv]
    rcases List.eq_nil_or_concat a with rfl | ⟨a, c, rfl⟩
    · simpa using hfront
    · obtain rfl : c = ' ' := ha c (by simp)
      have hsplit : (a.concat ' ' ++ v ++ b).splitOn ' ' = a.splitOn ' ' ++ (v ++ b).splitOn ' ' :=
        calc (a.concat ' ' ++ v ++ b).splitOn ' '
            = (a ++ ' ' :: (v ++ b)).splitOn ' ' := by simp
          _ = a.splitOn ' ' ++ (v ++ b).splitOn ' ' := List.splitOn_append_cons_self ..
      rw [hsplit]
      exact List.mem_append_right _ hfront

lemma endsOrDash_iff {cs : List Char} : endsOrDash cs = true ↔ cs = [] ∨ ∃ b, cs = '-' :: b := by
  cases cs with
  | nil => simp [endsOrDash]
  | cons c cs => simp [endsOrDash]

/-- **The tests for the relations between texts find the parts.** -/
theorem TextRelation.holds_iff_parts {r : TextRelation} {s v : List Char} :
    r.holds s v = true ↔ r.Parts s v := by
  cases r with
  | contains =>
    rw [holds, occursIn_iff_isInfix]
    constructor
    · rintro ⟨a, b, rfl⟩
      exact .contains a v b
    · rintro ⟨⟩
      exact ⟨_, _, rfl⟩
  | startsWith =>
    rw [holds, List.isPrefixOf_iff_prefix]
    constructor
    · rintro ⟨b, rfl⟩
      exact .startsWith v b
    · rintro ⟨⟩
      exact ⟨_, rfl⟩
  | endsWith =>
    rw [holds, List.isSuffixOf_iff_suffix]
    constructor
    · rintro ⟨a, rfl⟩
      exact .endsWith a v
    · rintro ⟨⟩
      exact ⟨_, rfl⟩
  | dashPrefix =>
    rw [holds, Bool.and_eq_true, List.isPrefixOf_iff_prefix, endsOrDash_iff]
    constructor
    · rintro ⟨⟨b, rfl⟩, h⟩
      -- What is tested is the text behind the prefix.
      rw [List.drop_left] at h
      rcases h with rfl | ⟨b, rfl⟩
      · rw [List.append_nil]
        exact .whole v
      · exact .dashed v b
    · rintro (_ | _)
      · exact ⟨List.prefix_rfl, .inl List.drop_length⟩
      · exact ⟨List.prefix_append .., .inr ⟨_, List.drop_left ..⟩⟩
  | token =>
    rw [holds, List.contains_iff_mem, mem_splitOn_iff]
    constructor
    · rintro ⟨hv, a, b, rfl, ha, hb⟩
      exact .token hv ha hb
    · intro h
      cases h with
      | token hv ha hb => exact ⟨hv, _, _, rfl, ha, hb⟩

/-- Whatever else a relation asks, the given text is contained. -/
lemma TextRelation.Parts.contains_of {r : TextRelation} {s v : List Char} (h : r.Parts s v) :
    TextRelation.contains.Parts s v := by
  cases h with
  | contains a v b => exact .contains a v b
  | startsWith v b => exact .contains [] v b
  | endsWith a v => simpa using Parts.contains a v []
  | whole => simpa using Parts.contains [] s []
  | dashed v b => exact .contains [] v ('-' :: b)
  | token _ _ _ => exact .contains _ v _

lemma TextRelation.Parts.startsWith_of_dashPrefix {s v : List Char}
    (h : TextRelation.dashPrefix.Parts s v) : TextRelation.startsWith.Parts s v := by
  cases h with
  | whole => simpa using Parts.startsWith s []
  | dashed v b => exact .startsWith v ('-' :: b)

/-! ## Values -/

/-- Equal as numbers: what is no number equals nothing, and zeros are equal whatever their signs. -/
def Binary64.SameNumber (x y : Binary64) : Prop :=
  x.isNaN = false ∧ (x = y ∨ x.isZero = true ∧ y.isZero = true)

lemma Binary64.beq_iff_sameNumber {x y : Binary64} : (x == y) = true ↔ x.SameNumber y := by
  unfold SameNumber
  cases x with
  | nan => simp [BEq.beq, eq, isNaN]
  | infinite s => cases y <;> simp [BEq.beq, eq, isNaN, isZero]
  | finite s q hq =>
    cases y with
    | nan => simp [BEq.beq, eq, isZero]
    | infinite t => simp [BEq.beq, eq, isZero]
    | finite t r hr =>
      have hbeq : (finite s q hq == finite t r hr) = (q == r && (q == 0 || s == t)) := rfl
      simp only [hbeq, isNaN, isZero, finite.injEq, Bool.and_eq_true, Bool.or_eq_true, beq_iff_eq]
      constructor
      · rintro ⟨rfl, h⟩
        rcases h with rfl | rfl
        · exact ⟨trivial, .inr ⟨rfl, rfl⟩⟩
        · exact ⟨trivial, .inl ⟨rfl, rfl⟩⟩
      · rintro ⟨-, ⟨rfl, rfl⟩ | ⟨rfl, rfl⟩⟩
        · exact ⟨rfl, .inr rfl⟩
        · exact ⟨rfl, .inl rfl⟩

/-- What is true: `true`, a number that is one and not zero, a text that is not empty, and every
array and object. -/
inductive Shape.Truthy : Shape → Prop where
  | boolean : Truthy (.boolean true)
  | number {x : Binary64} (hzero : x.isZero = false) (hnan : x.isNaN = false) : Truthy (.number x)
  | text {s : String} (hne : s ≠ "") : Truthy (.text s)
  | compound : Truthy .compound

lemma Shape.isTruthy_iff {shape : Shape} : shape.isTruthy = true ↔ shape.Truthy := by
  constructor
  · intro h
    cases shape with
    | null => simp [isTruthy] at h
    | boolean b =>
      obtain rfl : b = true := h
      exact .boolean
    | number x =>
      simp only [isTruthy, Bool.and_eq_true, Bool.not_eq_true'] at h
      exact .number h.1 h.2
    | text s => exact .text (of_decide_eq_true h)
    | compound => exact .compound
  · rintro (_ | ⟨hzero, hnan⟩ | hne | _)
    · rfl
    · simp [isTruthy, hzero, hnan]
    · exact decide_eq_true hne
    · rfl

/-! ## Comparisons -/

/-- The values that satisfy a comparison, if texts are compared in some form. -/
inductive Comparison.SatisfiedBy (form : List Char → List Char) : Comparison → Shape → Prop where
  | truthy {shape : Shape} (h : shape.Truthy) : SatisfiedBy form .truthy shape
  | text {v s : String} (h : form s.toList = form v.toList) :
      SatisfiedBy form (.equals (.text v)) (.text s)
  | number {v x : Binary64} (h : x.SameNumber v) :
      SatisfiedBy form (.equals (.number v)) (.number x)
  | boolean (b : Bool) : SatisfiedBy form (.equals (.boolean b)) (.boolean b)
  | regex {r : Regex} {s : String} (h : r.accepts (form s.toList) = true) :
      SatisfiedBy form (.equals (.regex r)) (.text s)
  | relates {r : TextRelation} {v s : String} (h : r.Parts (form s.toList) (form v.toList)) :
      SatisfiedBy form (.relates r v) (.text s)

/-- The tests decide which values satisfy a comparison. -/
theorem Comparison.holds_iff_form {caseSensitive : Bool} {c : Comparison} {shape : Shape} :
    c.holds caseSensitive shape = true ↔ c.SatisfiedBy (caseForm caseSensitive) shape := by
  constructor
  · intro h
    -- A comparison with an operand holds only of values of the shape of the operand.
    cases c with
    | truthy => exact .truthy (Shape.isTruthy_iff.1 h)
    | relates r v =>
      cases shape with
      | text s => exact .relates (TextRelation.holds_iff_parts.1 h)
      | _ => simp [holds] at h
    | equals operand =>
      cases operand with
      | text v =>
        cases shape with
        | text s => exact .text (eq_of_beq h)
        | _ => simp [holds, Operand.equalsShape] at h
      | number v =>
        cases shape with
        | number x => exact .number (Binary64.beq_iff_sameNumber.1 h)
        | _ => simp [holds, Operand.equalsShape] at h
      | boolean v =>
        cases shape with
        | boolean b =>
          obtain rfl : b = v := eq_of_beq h
          exact .boolean b
        | _ => simp [holds, Operand.equalsShape] at h
      | regex r =>
        cases shape with
        | text s => exact .regex h
        | _ => simp [holds, Operand.equalsShape] at h
  · rintro (h | h | h | _ | h | h)
    · exact Shape.isTruthy_iff.2 h
    · exact beq_iff_eq.2 h
    · exact Binary64.beq_iff_sameNumber.2 h
    · exact beq_self_eq_true _
    · exact h
    · exact TextRelation.holds_iff_parts.2 h

/-! ## Predicates -/

/-- Whatever satisfies a comparison satisfies another one: a predicate goes on to hold if the other
takes its place. -/
def Comparison.Implies (c d : Comparison) : Prop :=
  ∀ (p : Predicate) (subject : Option Shape),
    Predicate.holds { p with comparison := c } subject = true →
      Predicate.holds { p with comparison := d } subject = true

lemma Predicate.holds_iff_exists {p : Predicate} {subject : Option Shape} :
    p.holds subject = true ↔
      ∃ shape, subject = some shape ∧
        p.comparison.SatisfiedBy (caseForm p.caseSensitive) shape := by
  cases subject with
  | none => simp [holds]
  | some shape => simp [holds, Comparison.holds_iff_form]

/-- A relation of texts implies another one if its parts are parts of the other. -/
lemma Comparison.implies_of_parts {q r : TextRelation}
    (h : ∀ s v : List Char, q.Parts s v → r.Parts s v) (v : String) :
    (relates q v).Implies (relates r v) := by
  intro p subject hp
  rw [Predicate.holds_iff_exists] at hp ⊢
  obtain ⟨shape, rfl, hq⟩ := hp
  refine ⟨shape, rfl, ?_⟩
  cases hq with
  | relates hparts => exact .relates (h _ _ hparts)

lemma Comparison.equals_implies_dashPrefix (v : String) :
    (equals (.text v)).Implies (relates .dashPrefix v) := by
  intro p subject hp
  rw [Predicate.holds_iff_exists] at hp ⊢
  obtain ⟨shape, rfl, hequals⟩ := hp
  refine ⟨shape, rfl, ?_⟩
  cases hequals with
  | text htext =>
    refine .relates ?_
    rw [htext]
    exact .whole _

/-- **The operators ask what their table says.**  A predicate holds of a value exactly if the value
is there and satisfies the comparison, texts being compared as they are or in upper case; so it
never holds of what is absent or `null`.  For one operand, equality implies the dash prefix, which
implies the beginning, and this, the end and the token all imply that the operand is contained. -/
theorem Predicate.holds_iff_satisfiedBy :
    (∀ (p : Predicate) (subject : Option Shape),
      p.holds subject = true ↔
        ∃ shape, subject = some shape ∧
          p.comparison.SatisfiedBy (if p.caseSensitive then id else Unicode.upperCase) shape) ∧
    (∀ p : Predicate, p.holds none = false ∧ p.holds (some .null) = false) ∧
    ∀ v : String,
      (Comparison.equals (.text v)).Implies (.relates .dashPrefix v) ∧
      (Comparison.relates .dashPrefix v).Implies (.relates .startsWith v) ∧
      (Comparison.relates .startsWith v).Implies (.relates .contains v) ∧
      (Comparison.relates .token v).Implies (.relates .contains v) ∧
      (Comparison.relates .endsWith v).Implies (.relates .contains v) := by
  have hform : ∀ caseSensitive : Bool,
      caseForm caseSensitive = if caseSensitive then id else Unicode.upperCase := by
    intro caseSensitive
    funext cs
    cases caseSensitive <;> simp [caseForm]
  refine ⟨fun p subject => ?_, fun p => ⟨rfl, ?_⟩, fun v => ⟨?_, ?_, ?_, ?_, ?_⟩⟩
  · rw [holds_iff_exists, hform]
  · rw [← Bool.not_eq_true, holds_iff_exists]
    rintro ⟨shape, hshape, hnull⟩
    obtain rfl := Option.some.inj hshape
    generalize p.comparison = c at hnull
    -- No comparison is satisfied by `null`: it is not truthy, and it has the shape of no operand.
    cases hnull with
    | truthy h => cases h
  · exact Comparison.equals_implies_dashPrefix v
  · exact Comparison.implies_of_parts (fun _ _ h => h.startsWith_of_dashPrefix) v
  · exact Comparison.implies_of_parts (fun _ _ h => h.contains_of) v
  · exact Comparison.implies_of_parts (fun _ _ h => h.contains_of) v
  · exact Comparison.implies_of_parts (fun _ _ h => h.contains_of) v

/-- Upper case may be longer than the text, and two spaces have an empty token between them. -/
example :
    let p : TextRelation → String → Predicate := fun r v => ⟨["a"], by simp, .relates r v, false⟩
    (p .token "Strasse").holds (some (.text "die  straße")) = true ∧
      (p .token "").holds (some (.text "die  straße")) = true ∧
      (p .token "").holds (some (.text "straße")) = false := by
  decide +kernel

end ComponentQuery
