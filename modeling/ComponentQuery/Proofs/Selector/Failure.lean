import ComponentQuery.Proofs.Selector.Exactness

/-!
# How reading fails

`ComponentQuery.Proofs.Selector.Exactness` says what each function of the reader takes.  This module
says how each fails: for a reader `f` of a piece the relation `FFails` has one rule for each place
at which `f` may stop, with what has been read before, what is left, and the cause.  The lemmas
`f_eq_error` show that a failure of `f` is one by these rules, and `f_eq_error_iff`, where it is
needed, that each of them is a failure, so that nobody has to look into `f` to know what it refuses.

Two consequences are drawn here.  Whatever fails leaves an end of what it was given
(`f_error_isSuffix`), which makes the place of a failure a place in the text.  And a clause
fails at a character that cannot stand where it does, or its value is refused; then it fails where
the value starts (`clause_error_cases`).
-/

namespace ComponentQuery

open Grammar

namespace Grammar

/-- The beginning of a clause up to its value: a path and an operator, with the gap behind it. -/
inductive DerivesToValue : List Char → Operator → List Char → Prop where
  | intro {cs₁ cs₂ cs₃ cs₄ cs₅ rest : List Char} {first : Part} {more : List Part} {op : Operator}
      (h₁ : Gap cs₁ cs₂) (h₂ : DerivesPart cs₂ first cs₃) (h₃ : DerivesMore cs₃ more cs₄)
      (h₄ : DerivesOperator cs₄ op cs₅) (h₅ : Gap cs₅ rest) :
      DerivesToValue ('[' :: cs₁) op rest

end Grammar

namespace Reading

/-! ## Texts in quotation marks and regular expressions -/

/-- Only the end of the text stops the reading of a text in quotation marks. -/
lemma quoted_eq_error {mark : Char} {cs : List Char} {f : Failure}
    (h : quoted mark cs = .error f) : f = ⟨[], .unexpected (some .quotedString)⟩ := by
  fun_induction quoted mark cs with
  | case1 => exact (Except.error.inj h).symm
  | case2 => simp at h
  | case3 => exact (Except.error.inj h).symm
  | case4 e rest g hq _ ih => exact ih (hq.trans h)
  | case5 => simp at h
  | case6 c rest _ _ g hq ih => exact ih (hq.trans h)
  | case7 => simp at h

/-- Only the end of the text stops the reading of the source of a regular expression. -/
lemma regexSource_eq_error {inClass : Bool} {cs : List Char} {f : Failure}
    (h : regexSource inClass cs = .error f) :
    f = ⟨[], .unexpected (some .regularExpression)⟩ := by
  fun_induction regexSource inClass cs with
  | case1 => exact (Except.error.inj h).symm
  | case2 => exact (Except.error.inj h).symm
  | case3 _ e rest g hq ih => exact ih (hq.trans h)
  | case4 => simp at h
  | case5 => simp at h
  | case6 _ c rest _ _ g hq ih => exact ih (hq.trans h)
  | case7 => simp at h

/-- A regular expression has no end, or it is refused at its first slash. -/
lemma regexLiteral_eq_error {cs : List Char} {f : Failure} (h : regexLiteral cs = .error f) :
    f = ⟨[], .unexpected (some .regularExpression)⟩ ∨
      ∃ message, f = ⟨'/' :: cs, .invalidRegex message⟩ := by
  revert h
  fun_cases regexLiteral cs with
  | case1 g hs =>
    rintro ⟨⟩
    exact .inl (regexSource_eq_error hs)
  | case2 source left hs flags left' hflags refusal =>
    exact fun h => .inr ⟨refusal.message, (Except.error.inj h).symm⟩
  | case3 => simp

/-! ## Paths -/

/-- How reading a part of a path fails: its mark is not closed, or it has no characters. -/
inductive SegmentFails (cs : List Char) : Failure → Prop where
  | unclosed : SegmentFails cs ⟨[], .unexpected (some .quotedString)⟩
  | empty {rest : List Char} (h : partText (skipBlanks cs) = .ok ([], rest)) :
      SegmentFails cs ⟨rest, .unexpected (some .propertyPath)⟩

lemma partText_eq_error {cs : List Char} {f : Failure} (h : partText cs = .error f) :
    f = ⟨[], .unexpected (some .quotedString)⟩ := by
  revert h
  fun_cases partText cs with
  | case1 => exact quoted_eq_error
  | case2 => exact quoted_eq_error
  | case3 => simp

lemma segment_eq_error {cs : List Char} {f : Failure} (h : segment cs = .error f) :
    SegmentFails cs f := by
  have hread : segment cs = partOfText (partText (skipBlanks cs)) := rfl
  rw [hread] at h
  revert h
  generalize hp : partText (skipBlanks cs) = r
  fun_cases partOfText r with
  | case1 g =>
    rintro ⟨⟩
    obtain rfl := partText_eq_error hp
    exact .unclosed
  | case2 left =>
    rintro ⟨⟩
    exact .empty hp
  | case3 => simp

/-- How reading further parts of a path fails: at the part behind a dot, after parts that are
read. -/
inductive MoreSegmentsFails : List Char → Failure → Prop where
  | part {cs left : List Char} {f : Failure} (hdot : skipBlanks cs = '.' :: left)
      (h : segment left = .error f) : MoreSegmentsFails cs f
  | later {cs left left' : List Char} {s : String} {f : Failure}
      (hdot : skipBlanks cs = '.' :: left) (hs : segment left = .ok (s, left'))
      (h : MoreSegmentsFails left' f) : MoreSegmentsFails cs f

lemma moreSegments_eq_error_iff {cs : List Char} {f : Failure} :
    moreSegments cs = .error f ↔ MoreSegmentsFails cs f := by
  constructor
  · intro h
    fun_induction moreSegments cs with
    | case1 _ _ hdot g hs =>
      obtain rfl := Except.error.inj h
      exact .part hdot hs
    | case2 _ _ hdot _ _ hs _ g hr ih =>
      obtain rfl := Except.error.inj h
      exact .later hdot hs (ih hr)
    | case3 => simp at h
    | case4 => simp at h
  · intro h
    induction h with
    | part hdot hs =>
      rw [moreSegments_eq, hdot]
      simp only [hs]
    | later hdot hs _ ih =>
      rw [moreSegments_eq, hdot]
      simp only [hs, ih]

/-! ## Operators -/

/-- How reading an operator fails: at a character that is no sign, or behind the sign of a relation
that no sign of equality follows. -/
inductive OperatorFails (cs : List Char) : Failure → Prop where
  | sign (h : ∀ c ∈ (skipBlanks cs).head?, c ≠ '=' ∧ TextRelation.ofSign? c = none) :
      OperatorFails cs ⟨skipBlanks cs, .unexpected (some .operator)⟩
  | equality {r : TextRelation} {rest : List Char} (h : skipBlanks cs = r.sign :: rest)
      (hrest : rest.head? ≠ some '=') : OperatorFails cs ⟨rest, .unexpected (some .operator)⟩

lemma operator_eq_error_iff {cs : List Char} {f : Failure} :
    operator cs = .error f ↔ OperatorFails cs f := by
  constructor
  · fun_cases operator cs with
    | case1 hnil =>
      rintro ⟨⟩
      rw [← hnil]
      exact .sign (by simp [hnil])
    | case2 => simp
    | case3 c left hne hcs hsign =>
      rintro ⟨⟩
      rw [← hcs]
      exact .sign (by simpa [hcs, hsign] using hne)
    | case4 => simp
    | case5 c left _ hcs r hsign hleft =>
      rintro ⟨⟩
      rw [← TextRelation.sign_of_ofSign? hsign] at hcs
      exact .equality hcs (head?_ne_of_forall hleft)
  · intro h
    unfold operator
    cases h with
    | sign hsign =>
      cases hcs : skipBlanks cs with
      | nil => rfl
      | cons c rest =>
        obtain ⟨hne, hnone⟩ := hsign c (by rw [hcs]; rfl)
        split <;> simp_all [unexpected]
    | @equality r rest hcs hrest =>
      rw [hcs]
      cases rest with
      | nil => cases r <;> rfl
      | cons c rest =>
        have hc : c ≠ '=' := by simpa using hrest
        cases r <;> simp_all [TextRelation.sign, TextRelation.ofSign?, unexpected]

/-! ## Values -/

/-- What begins with no slash and no mark is a token. -/
def StartsToken (cs : List Char) : Prop := ∀ c ∈ cs.head?, c ∉ ['/', '"', '\'']

lemma value_of_startsToken {cs : List Char} (h : StartsToken cs) (config : Config)
    (op : Operator) :
    value config op cs =
      match unquotedValue config cs with
      | .error f => .error f
      | .ok (operand, rest) => .ok ((operand, true), rest) := by
  cases cs with
  | nil => rfl
  | cons c cs => exact value_token (h c rfl)

lemma value_cases (cs : List Char) :
    (∃ cs', cs = '/' :: cs') ∨ (∃ mark cs', cs = mark :: cs' ∧ QuotationMark mark) ∨
      StartsToken cs := by
  by_cases h : StartsToken cs
  · exact .inr (.inr h)
  · obtain ⟨c, hc, hmem⟩ : ∃ c ∈ cs.head?, c ∈ ['/', '"', '\''] := by
      unfold StartsToken at h
      push Not at h
      exact h
    obtain ⟨cs', rfl⟩ := List.head?_eq_some_iff.1 hc
    simp only [List.mem_cons, List.not_mem_nil, or_false] at hmem
    rcases hmem with rfl | rfl | rfl
    · exact .inl ⟨cs', rfl⟩
    · exact .inr (.inl ⟨_, cs', rfl, .double⟩)
    · exact .inr (.inl ⟨_, cs', rfl, .single⟩)

lemma unquotedValue_eq_error {config : Config} {cs : List Char} {f : Failure}
    (h : unquotedValue config cs = .error f) :
    f = ⟨cs, .unexpected (some .attributeValue)⟩ ∧
      tokenOperand? config (run isTokenChar cs).1 = none := by
  revert h
  fun_cases unquotedValue config cs with
  | case1 token left hread htoken =>
    intro h
    exact ⟨(Except.error.inj h).symm, by rw [hread]; exact htoken⟩
  | case2 => simp

lemma quotedValue_eq_error {mark : Char} {cs : List Char} {f : Failure}
    (h : quotedValue mark cs = .error f) : f = ⟨[], .unexpected (some .quotedString)⟩ := by
  revert h
  fun_cases quotedValue mark cs with
  | case1 g hq =>
    rintro ⟨⟩
    exact quoted_eq_error hq
  | case2 => simp

/-- How reading a value fails: a regular expression behind another sign than that of equality, one
without an end, one that is refused, a mark that is not closed, a token that stands for nothing. -/
inductive ValueFails (config : Config) : Operator → List Char → Failure → Prop where
  | regexOperator {op : Operator} {cs : List Char} (hop : op ≠ .equals) :
      ValueFails config op ('/' :: cs) ⟨'/' :: cs, .regexOperator op⟩
  | unendingRegex {cs : List Char} :
      ValueFails config .equals ('/' :: cs) ⟨[], .unexpected (some .regularExpression)⟩
  | invalidRegex {cs : List Char} (message : String) :
      ValueFails config .equals ('/' :: cs) ⟨'/' :: cs, .invalidRegex message⟩
  | unclosed {op : Operator} {cs : List Char} :
      ValueFails config op cs ⟨[], .unexpected (some .quotedString)⟩
  | token {op : Operator} {cs : List Char} (hstart : StartsToken cs)
      (h : tokenOperand? config (run isTokenChar cs).1 = none) :
      ValueFails config op cs ⟨cs, .unexpected (some .attributeValue)⟩

lemma value_eq_error {config : Config} {op : Operator} {cs : List Char} {f : Failure}
    (h : value config op cs = .error f) : ValueFails config op cs f := by
  rcases value_cases cs with ⟨cs, rfl⟩ | ⟨mark, cs, rfl, hm⟩ | hstart
  · by_cases hop : op = .equals
    · subst hop
      simp only [value, if_true] at h
      cases hr : regexLiteral cs with
      | error g =>
        obtain rfl : g = f := by simpa [hr] using h
        rcases regexLiteral_eq_error hr with rfl | ⟨message, rfl⟩
        · exact .unendingRegex
        · exact .invalidRegex message
      | ok r => simp [hr] at h
    · simp only [value, if_neg hop] at h
      obtain rfl := Except.error.inj h
      exact .regexOperator hop
  · rw [value_mark hm] at h
    obtain rfl := quotedValue_eq_error h
    exact .unclosed
  · rw [value_of_startsToken hstart] at h
    cases hu : unquotedValue config cs with
    | error g =>
      obtain rfl : g = f := by simpa [hu] using h
      obtain ⟨rfl, htoken⟩ := unquotedValue_eq_error hu
      exact .token hstart htoken
    | ok r => simp [hu] at h

/-! ## Clauses -/

/-- How reading a comparison fails: in its operator, in its value, behind the value, where no
bracket closes the clause, or, with the bracket read, since the operator takes no such operand. -/
inductive ComparisonFails (config : Config) (cs : List Char) : Failure → Prop where
  | operator {f : Failure} (h : operator cs = .error f) : ComparisonFails config cs f
  | value {op : Operator} {left : List Char} {f : Failure}
      (ho : Reading.operator cs = .ok (op, left))
      (h : Reading.value config op (skipBlanks left) = .error f) : ComparisonFails config cs f
  | bracket {op : Operator} {left left' : List Char} {v : Operand × Bool}
      (ho : Reading.operator cs = .ok (op, left))
      (hv : Reading.value config op (skipBlanks left) = .ok (v, left'))
      (h : (skipBlanks left').head? ≠ some ']') :
      ComparisonFails config cs ⟨skipBlanks left', .unexpected (some .attributeValue)⟩
  | operand {op : Operator} {left left' rest : List Char} {v : Operand × Bool}
      (ho : Reading.operator cs = .ok (op, left))
      (hv : Reading.value config op (skipBlanks left) = .ok (v, left'))
      (hclose : skipBlanks left' = ']' :: rest) (h : ∀ c, ¬ Makes op v.1 c) :
      ComparisonFails config cs ⟨skipBlanks left, .nonTextOperand op v.1.display⟩

lemma ofOperand_eq_error_iff {op : Operator} {v w : Operand} :
    Comparison.ofOperand op v = .error w ↔ w = v ∧ ∀ c, ¬ Makes op v c := by
  constructor
  · intro h
    refine ⟨?_, fun c hc => ?_⟩
    · revert h
      fun_cases Comparison.ofOperand op v <;> simp_all
    · rw [ofOperand_eq_ok_iff.2 hc] at h
      simp at h
  · rintro ⟨rfl, h⟩
    cases hv : Comparison.ofOperand op w with
    | ok c => exact absurd (ofOperand_eq_ok_iff.1 hv) (h c)
    | error v =>
      revert hv
      fun_cases Comparison.ofOperand op w <;> simp_all

lemma comparison_eq_error_iff {config : Config} {cs : List Char} {f : Failure} :
    comparison config cs = .error f ↔ ComparisonFails config cs f := by
  constructor
  · fun_cases comparison config cs with
    | case1 g ho =>
      rintro ⟨⟩
      exact .operator ho
    | case2 op left ho start g hv =>
      rintro ⟨⟩
      exact .value ho hv
    | case3 op left ho start v b left' hv left'' hclose w hw =>
      rintro ⟨⟩
      obtain ⟨rfl, hmakes⟩ := ofOperand_eq_error_iff.1 hw
      exact .operand ho hv hclose hmakes
    | case4 => simp
    | case5 op left ho start v b left' hv hopen =>
      rintro ⟨⟩
      exact .bracket ho hv (head?_ne_of_forall hopen)
  · intro h
    unfold comparison
    cases h with
    | operator ho => simp only [ho]
    | value ho hv => simp only [ho, hv]
    | bracket ho hv hopen =>
      simp only [ho, hv]
      split
      · simp_all
      · rfl
    | operand ho hv hclose hmakes =>
      simp only [ho, hv, hclose, ofOperand_eq_error_iff.2 ⟨rfl, hmakes⟩]

/-- How reading a clause fails: in its first part, in a part behind, or, if no bracket closes the
clause there, in its comparison. -/
inductive ClauseFails (config : Config) (cs : List Char) : Failure → Prop where
  | first {f : Failure} (h : segment cs = .error f) : ClauseFails config cs f
  | more {s : String} {left : List Char} {f : Failure} (hs : segment cs = .ok (s, left))
      (h : moreSegments left = .error f) : ClauseFails config cs f
  | comparison {s : String} {path : List String} {left left' : List Char} {f : Failure}
      (hs : segment cs = .ok (s, left)) (hm : moreSegments left = .ok (path, left'))
      (hopen : (skipBlanks left').head? ≠ some ']')
      (h : comparison config (skipBlanks left') = .error f) : ClauseFails config cs f

lemma clause_eq_error_iff {config : Config} {cs : List Char} {f : Failure} :
    clause config cs = .error f ↔ ClauseFails config cs f := by
  constructor
  · fun_cases clause config cs with
    | case1 g hs =>
      rintro ⟨⟩
      exact .first hs
    | case2 s left hs g hm =>
      rintro ⟨⟩
      exact .more hs hm
    | case4 s left hs path left' hm g hopen hc =>
      rintro ⟨⟩
      exact .comparison hs hm (head?_ne_of_forall hopen) hc
    | _ => simp
  · intro h
    unfold clause
    cases h with
    | first hs => simp only [hs]
    | more hs hm => simp only [hs, hm]
    | comparison hs hm hopen hc =>
      simp only [hs, hm]
      split
      · simp_all
      · simp only [hc]

/-! ## What is left

A failure leaves an end of what its reader was given. -/

/-- What is left where a reader comes to its end. -/
def left {α : Type} : Reading α → List Char
  | .ok (_, rest) => rest
  | .error f => f.rest

lemma partText_isSuffix {cs text rest : List Char} (h : partText cs = .ok (text, rest)) :
    rest <:+ cs := by
  have hquoted : ∀ {mark : Char} {cs : List Char}, quoted mark cs = .ok (text, rest) →
      rest <:+ mark :: cs := by
    intro mark cs hq
    obtain ⟨c, cs', rfl, hs⟩ := quoted_isSuffix hq
    exact (hs.trans (List.suffix_cons c cs')).trans (List.suffix_cons mark _)
  revert h
  fun_cases partText cs with
  | case1 => exact hquoted
  | case2 => exact hquoted
  | case3 =>
    intro h
    have hrun := run_isSuffix isNameChar cs
    rwa [Except.ok.inj h] at hrun

lemma segment_error_isSuffix {cs : List Char} {f : Failure} (h : segment cs = .error f) :
    f.rest <:+ cs := by
  cases segment_eq_error h with
  | unclosed => exact List.nil_suffix
  | empty hp => exact (partText_isSuffix hp).trans (skipBlanks_isSuffix cs)

lemma moreSegments_error_isSuffix {cs : List Char} {f : Failure}
    (h : moreSegments cs = .error f) : f.rest <:+ cs := by
  have hdots : ∀ {cs left : List Char}, skipBlanks cs = '.' :: left → left <:+ cs :=
    fun hdot => (List.suffix_cons '.' _).trans (hdot ▸ skipBlanks_isSuffix _)
  have hfails := moreSegments_eq_error_iff.1 h
  clear h
  induction hfails with
  | part hdot hs => exact (segment_error_isSuffix hs).trans (hdots hdot)
  | later hdot hs _ ih => exact ih.trans ((segment_isSuffix hs).1.trans (hdots hdot))

lemma operator_error_isSuffix {cs : List Char} {f : Failure} (h : operator cs = .error f) :
    f.rest <:+ cs := by
  cases operator_eq_error_iff.1 h with
  | sign => exact skipBlanks_isSuffix cs
  | equality hsign => exact (List.suffix_cons _ _).trans (hsign ▸ skipBlanks_isSuffix cs)

lemma value_error_isSuffix {config : Config} {op : Operator} {cs : List Char} {f : Failure}
    (h : value config op cs = .error f) : f.rest <:+ cs := by
  cases value_eq_error h with
  | regexOperator => exact List.suffix_rfl
  | unendingRegex => exact List.nil_suffix
  | invalidRegex => exact List.suffix_rfl
  | unclosed => exact List.nil_suffix
  | token => exact List.suffix_rfl

lemma comparison_error_isSuffix {config : Config} {cs : List Char} {f : Failure}
    (h : comparison config cs = .error f) : f.rest <:+ cs := by
  have hvalue : ∀ {op : Operator} {left : List Char}, operator cs = .ok (op, left) →
      skipBlanks left <:+ cs :=
    fun ho => (skipBlanks_isSuffix _).trans (operator_isSuffix ho)
  cases comparison_eq_error_iff.1 h with
  | operator ho => exact operator_error_isSuffix ho
  | value ho hv => exact (value_error_isSuffix hv).trans (hvalue ho)
  | bracket ho hv _ =>
    exact ((skipBlanks_isSuffix _).trans (value_isSuffix hv)).trans (hvalue ho)
  | operand ho => exact hvalue ho

theorem clause_error_isSuffix {config : Config} {cs : List Char} {f : Failure}
    (h : clause config cs = .error f) : f.rest <:+ cs := by
  cases clause_eq_error_iff.1 h with
  | first hs => exact segment_error_isSuffix hs
  | more hs hm => exact (moreSegments_error_isSuffix hm).trans (segment_isSuffix hs).1
  | comparison hs hm _ hc =>
    have hleft := (moreSegments_isSuffix hm).trans (segment_isSuffix hs).1
    exact ((comparison_error_isSuffix hc).trans (skipBlanks_isSuffix _)).trans hleft

/-! ## Values that are refused -/

/-- Reading a path and an operator comes to the value. -/
lemma derivesToValue_of_operator {cs left left' left'' : List Char} {s : String}
    {path : List String} {op : Operator} (hs : segment cs = .ok (s, left))
    (hm : moreSegments left = .ok (path, left'))
    (ho : operator (skipBlanks left') = .ok (op, left'')) :
    DerivesToValue ('[' :: cs) op (skipBlanks left'') := by
  obtain ⟨cs', part, hg, hp, -⟩ := segment_eq_ok_iff.1 hs
  obtain ⟨more, hmore, -, -⟩ := moreSegments_eq_ok_iff.1 hm
  have hgap : Gap left' left' := gap_of_derivesMore hmore
  rw [skipBlanks_eq_iff.2 hgap] at ho
  obtain ⟨cs'', hgap', hop⟩ := operator_eq_ok_iff.1 ho
  obtain rfl := hgap.unique hgap'
  exact .intro hg hp hmore hop (gap_skipBlanks left'')

/-- How a value is refused where it starts, behind an operator. -/
inductive Refuses : Operator → Failure → Prop where
  | regexOperator (op : Operator) (rest : List Char) : Refuses op ⟨'/' :: rest, .regexOperator op⟩
  | invalidRegex (rest : List Char) (message : String) :
      Refuses .equals ⟨'/' :: rest, .invalidRegex message⟩
  | nonTextOperand (op : Operator) {rest : List Char} (v : Operand) (hne : rest ≠ []) :
      Refuses op ⟨rest, .nonTextOperand op v.display⟩

lemma value_error_cases {config : Config} {op : Operator} {cs : List Char} {f : Failure}
    (h : value config op cs = .error f) :
    (∃ stage, f.cause = .unexpected (some stage)) ∨ f.rest = cs ∧ Refuses op f := by
  cases value_eq_error h with
  | regexOperator => exact .inr ⟨rfl, .regexOperator _ _⟩
  | unendingRegex => exact .inl ⟨_, rfl⟩
  | invalidRegex message => exact .inr ⟨rfl, .invalidRegex _ message⟩
  | unclosed => exact .inl ⟨_, rfl⟩
  | token => exact .inl ⟨_, rfl⟩

lemma moreSegments_error_cause {cs : List Char} {f : Failure} (h : moreSegments cs = .error f) :
    ∃ stage, f.cause = .unexpected (some stage) := by
  have hfails := moreSegments_eq_error_iff.1 h
  clear h
  induction hfails with
  | part _ hs => cases segment_eq_error hs <;> exact ⟨_, rfl⟩
  | later _ _ _ ih => exact ih

/-- A clause fails at a character or an end that is not expected, or its value is refused where it
starts. -/
lemma clause_error_cases {config : Config} {cs : List Char} {f : Failure}
    (h : clause config cs = .error f) :
    (∃ stage, f.cause = .unexpected (some stage)) ∨
      ∃ op, DerivesToValue ('[' :: cs) op f.rest ∧ Refuses op f := by
  cases clause_eq_error_iff.1 h with
  | first hs => cases segment_eq_error hs <;> exact .inl ⟨_, rfl⟩
  | more _ hm => exact .inl (moreSegments_error_cause hm)
  | comparison hs hm _ hc =>
    cases comparison_eq_error_iff.1 hc with
    | operator ho => cases operator_eq_error_iff.1 ho <;> exact .inl ⟨_, rfl⟩
    | value ho hv =>
      rcases value_error_cases hv with hstage | ⟨hrest, hrefuses⟩
      · exact .inl hstage
      · exact .inr ⟨_, hrest ▸ derivesToValue_of_operator hs hm ho, hrefuses⟩
    | bracket => exact .inl ⟨_, rfl⟩
    | operand ho hv hclose _ =>
      refine .inr ⟨_, derivesToValue_of_operator hs hm ho, .nonTextOperand _ _ fun hnil => ?_⟩
      have hsuffix := (skipBlanks_isSuffix _).trans (value_isSuffix hv)
      rw [hclose, hnil] at hsuffix
      simp at hsuffix

end Reading

end ComponentQuery
