import ComponentQuery.Proofs.Selector.Composition
import ComponentQuery.Selector.Diagnostic

/-!
# Where errors stand

The reader places a problem by what is left of the text where it stops.  Here that place is tied
to the text: an unexpected character is the one at the given place, an unexpected end is the end,
and whatever is refused for what it means is refused where a value starts, which the grammar says
without reference to the reader (`ValueStart`).

The main result is `Selector.parse_error_located`.
-/

namespace ComponentQuery

open Grammar

namespace Grammar

/-- In a text, the value of a clause starts at `rest`, with an operator before it; a name and whole
clauses stand before that clause. -/
inductive ValueStart : List Char → Operator → List Char → Prop where
  | intro {cs₁ cs₂ cs₃ cs₄ name rest : List Char} {clauses : List Clause} {op : Operator}
      (h₁ : Gap cs₁ (name ++ cs₂)) (h₂ : IsRun Reading.isNameChar name cs₂) (h₃ : Gap cs₂ cs₃)
      (h₄ : DerivesLeading cs₃ clauses cs₄) (h₅ : DerivesToValue cs₄ op rest) :
      ValueStart cs₁ op rest

end Grammar

/-! ## Places and what stands there -/

lemma drop_placeOf {text rest : List Char} (h : rest <:+ text) :
    text.drop (placeOf text rest) = rest :=
  (List.suffix_iff_eq_drop.1 h).symm

lemma getElem?_placeOf {text rest : List Char} (h : rest <:+ text) :
    text[placeOf text rest]? = rest.head? := by
  rw [← List.head?_drop, drop_placeOf h]

lemma placeOf_lt {text rest : List Char} (h : rest <:+ text) (hne : rest ≠ []) :
    placeOf text rest < text.length := by
  have hpos := List.length_pos_of_ne_nil hne
  have hle := h.length_le
  simp only [placeOf]
  omega

/-- Where a problem stands in a text: an unexpected character at its place, an unexpected end at
the end, a value that is refused at the place where a value starts, behind the operator that refuses
it. -/
def Problem.Located (text : List Char) : Problem → Prop
  | unexpectedEnd position _ => position = text.length
  | unexpectedSymbol symbol position _ => ∃ h : position < text.length, text[position] = symbol
  | invalidRegex position _ =>
    (∃ h : position < text.length, text[position] = '/') ∧
      ValueStart text .equals (text.drop position)
  | regexOperator position operator =>
    (∃ h : position < text.length, text[position] = '/') ∧
      ValueStart text operator (text.drop position)
  | nonTextOperand position operator _ =>
    position < text.length ∧ ValueStart text operator (text.drop position)
  | empty => ∀ c ∈ text, isBlank c = true

/-- A span marks some characters of a text, and no others. -/
structure Span.Marks (span : Span) (text symbols : List Char) : Prop where
  extent : span.stop = span.start + symbols.length
  within : span.stop ≤ text.length
  marked : text.extract span.start span.stop = symbols

/-- The span of a problem that stands in a text marks the character at fault, or none. -/
lemma Problem.Located.marks {text : List Char} {p : Problem} (h : p.Located text) {span : Span}
    (hspan : p.span? = some span) :
    p.position? = some span.start ∧ span.Marks text p.symbol?.toList := by
  -- A problem without a symbol points between two characters.
  have hnone : ∀ {position : Nat}, position ≤ text.length →
      Span.Marks ⟨position, position⟩ text [] := by
    intro position hle
    exact ⟨rfl, hle, by simp [List.extract]⟩
  cases p with
  | unexpectedEnd position stage =>
    obtain rfl := Option.some.inj hspan
    exact ⟨rfl, hnone (Nat.le_of_eq h)⟩
  | unexpectedSymbol symbol position stage =>
    obtain rfl := Option.some.inj hspan
    obtain ⟨hlt, hsymbol⟩ := h
    have hone : text.extract position (position + 1) = [symbol] := by
      rw [List.extract, Nat.add_sub_cancel_left, List.drop_eq_getElem_cons hlt, hsymbol]
      rfl
    exact ⟨rfl, rfl, hlt, hone⟩
  | invalidRegex position message =>
    obtain rfl := Option.some.inj hspan
    obtain ⟨⟨hlt, -⟩, -⟩ := h
    exact ⟨rfl, hnone (Nat.le_of_lt hlt)⟩
  | regexOperator position operator =>
    obtain rfl := Option.some.inj hspan
    obtain ⟨⟨hlt, -⟩, -⟩ := h
    exact ⟨rfl, hnone (Nat.le_of_lt hlt)⟩
  | nonTextOperand position operator operand =>
    obtain rfl := Option.some.inj hspan
    exact ⟨rfl, hnone (Nat.le_of_lt h.1)⟩
  | empty => simp [span?, position?] at hspan

namespace Reading

/-- A selector fails at a character or an end that is not expected, or a value is refused where it
starts, or there are only blanks. -/
lemma selector_error_cases {config : Config} {cs : List Char} {f : Failure}
    (h : selector config cs = .error f) :
    (∃ stage, f.cause = .unexpected stage) ∨ (∃ op, ValueStart cs op f.rest ∧ Refuses op f) ∨
      f.cause = .empty ∧ ∀ c ∈ cs, isBlank c = true := by
  cases selector_eq_error h with
  | clauses hname hc =>
    obtain ⟨hcs, hrun⟩ := run_eq_iff.1 hname
    obtain ⟨cs', written, -, left, hg, hd, -, hclause⟩ := clauses_eq_error hc
    rcases clause_error_cases hclause with ⟨stage, hstage⟩ | ⟨op, hvalue, hrefuses⟩
    · exact .inl ⟨_, hstage⟩
    · have hgap := gap_skipBlanks cs
      rw [hcs] at hgap
      exact .inr (.inl ⟨op, .intro hgap hrun hg hd hvalue, hrefuses⟩)
  | behind => exact .inl ⟨_, rfl⟩
  | empty => exact .inr (.inr ⟨rfl, selector_error_empty_iff.1 ⟨_, h, rfl⟩⟩)

lemma located_of_selector_error {config : Config} {cs : List Char} {f : Failure}
    (h : selector config cs = .error f) : (f.problemAt (placeOf cs f.rest)).Located cs := by
  have hsuffix := selector_error_isSuffix h
  have hget := getElem?_placeOf hsuffix
  have hcases := selector_error_cases h
  rw [← drop_placeOf hsuffix] at hcases
  rcases hcases with ⟨stage, hstage⟩ | ⟨op, hvalue, hrefuses⟩ | ⟨hempty, hblank⟩
  · obtain ⟨rest, cause⟩ := f
    obtain rfl : cause = .unexpected stage := hstage
    cases rest with
    | nil => simp [Failure.problemAt, Problem.Located, placeOf]
    | cons c rest => exact List.getElem?_eq_some_iff.1 hget
  · cases hrefuses with
    | regexOperator => exact ⟨List.getElem?_eq_some_iff.1 hget, hvalue⟩
    | invalidRegex => exact ⟨List.getElem?_eq_some_iff.1 hget, hvalue⟩
    | nonTextOperand _ _ hne => exact ⟨placeOf_lt hsuffix hne, hvalue⟩
  · obtain ⟨rest, cause⟩ := f
    obtain rfl : cause = .empty := hempty
    exact hblank

end Reading

/-- **Errors are located truthfully.**  If a text is no selector, then the error holds the text, its
problem stands where it is said to stand, and the span of its diagnostic lies in the text and marks
the unexpected character, or nothing if the problem is no character.  And the error is that the
selector is empty exactly for texts of blanks only. -/
theorem Selector.parse_error_located (config : Config) (text : String) :
    (∀ e, Selector.parse config text = .error e →
      e.selector = text ∧ e.problem.Located text.toList ∧
        (e.diagnostic.span = none ↔ e.problem = .empty) ∧
        ∀ span, e.diagnostic.span = some span →
          e.problem.position? = some span.start ∧
            span.Marks text.toList e.problem.symbol?.toList) ∧
      (Selector.parse config text = .error ⟨text, .empty⟩ ↔
        ∀ c ∈ text.toList, isBlank c = true) := by
  constructor
  · intro e he
    obtain ⟨f, hf, rfl⟩ := Selector.parse_eq_error_iff.1 he
    have hlocated := Reading.located_of_selector_error hf
    refine ⟨rfl, hlocated, ?_, fun span hspan => hlocated.marks hspan⟩
    generalize f.problemAt _ = p
    cases p <;> simp [SelectorError.diagnostic, Problem.span?, Problem.position?]
  · rw [← Reading.selector_error_empty_iff, Selector.parse_eq_error_iff]
    constructor
    · rintro ⟨f, hf, he⟩
      have hempty := (SelectorError.mk.inj he).2.symm
      exact ⟨f, hf, Reading.Failure.problemAt_eq_empty_iff.1 hempty⟩
    · rintro ⟨f, hf, hcause⟩
      exact ⟨f, hf, by rw [Reading.Failure.problemAt_eq_empty_iff.2 hcause]⟩

/-- A boolean that a relation between texts refuses: its place counts characters, of which the first
takes two bytes. -/
theorem Selector.parse_error_located_value :
    Selector.parse ⟨false⟩ "ü[a*=true]" =
        .error ⟨"ü[a*=true]", .nonTextOperand 5 (.relates .contains) "true"⟩ ∧
      ValueStart "ü[a*=true]".toList (.relates .contains) "true]".toList ∧
      Span.Marks ⟨5, 5⟩ "ü[a*=true]".toList [] := by
  have hmore := Reading.moreSegments_of_no_dot (gap_skipBlanks "*=true]".toList) (by decide)
  have hclause : Reading.clause ⟨false⟩ "a*=true]".toList =
      .error ⟨"true]".toList, .nonTextOperand (.relates .contains) "true"⟩ :=
    Reading.clause_eq_error_iff.2 (.comparison rfl hmore (by decide) rfl)
  have hname : Reading.run Reading.isNameChar (skipBlanks "ü[a*=true]".toList) =
      (['ü'], '[' :: "a*=true]".toList) := by decide
  have he : Selector.parse ⟨false⟩ "ü[a*=true]" =
      .error ⟨"ü[a*=true]", .nonTextOperand 5 (.relates .contains) "true"⟩ :=
    (Selector.parse_of_clause_error hname hclause).trans (congrArg Except.error (by decide))
  obtain ⟨-, hlocated, -, hspan⟩ := (Selector.parse_error_located ⟨false⟩ "ü[a*=true]").1 _ he
  exact ⟨he, hlocated.2, (hspan ⟨5, 5⟩ rfl).2⟩

end ComponentQuery
