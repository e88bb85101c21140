import ComponentQuery.Proofs.Selector.Addressing
import ComponentQuery.Proofs.Selector.Location
import ComponentQuery.Proofs.Selector.SerialForm

/-!
# Where regular expressions end

The reader goes through the source of a regular expression with one bit of memory: whether it is
inside of a class.  Here the end of a source is told by the places of characters instead.  A
character is escaped if it stands behind a backslash that is not escaped itself; a place is inside
of a class if a bracket that is not escaped opens one before it and none closes it up to there; and
the source ends at the first slash that is neither escaped nor inside of a class (`FirstCloses`).

Where a class is open at the start of a text, places are inside of it up to its closing bracket
(`InClassFrom`).  That is how the end of a text knows of what stood before it, and with it the
places in a text and in an end of it agree (`closesFrom_cons`, `closesFrom_escape`).

The main result is `Reading.regexLiteral_delimited`.
-/

namespace ComponentQuery

open Grammar

namespace Grammar

/-! ## Places in a source -/

/-- The character at a place stands behind a backslash that is not escaped. -/
def IsEscaped (cs : List Char) : Nat → Prop
  | 0 => False
  | i + 1 => cs[i]? = some '\\' ∧ ¬ IsEscaped cs i

/-- A character stands at a place and is not escaped. -/
def StandsPlain (cs : List Char) (c : Char) (i : Nat) : Prop := cs[i]? = some c ∧ ¬ IsEscaped cs i

/-- A bracket opens a class before a place, and no bracket closes it between the two. -/
def InClass (cs : List Char) (i : Nat) : Prop :=
  ∃ start < i, StandsPlain cs '[' start ∧ ∀ j < i, start < j → ¬ StandsPlain cs ']' j

/-- A slash that ends a source: it is neither escaped nor inside of a class. -/
def Closes (cs : List Char) (i : Nat) : Prop := StandsPlain cs '/' i ∧ ¬ InClass cs i

/-- The first slash that ends a source. -/
def FirstCloses (cs : List Char) (i : Nat) : Prop := Closes cs i ∧ ∀ j < i, ¬ Closes cs j

instance (cs : List Char) : DecidablePred (IsEscaped cs) := fun i => by
  induction i with
  | zero => exact isFalse id
  | succ i ih => exact inferInstanceAs (Decidable (cs[i]? = some '\\' ∧ ¬ IsEscaped cs i))

instance (cs : List Char) (c : Char) : DecidablePred (StandsPlain cs c) := fun i =>
  inferInstanceAs (Decidable (cs[i]? = some c ∧ ¬ IsEscaped cs i))

instance (cs : List Char) : DecidablePred (InClass cs) := fun i =>
  inferInstanceAs (Decidable (∃ start < i, StandsPlain cs '[' start ∧
    ∀ j < i, start < j → ¬ StandsPlain cs ']' j))

instance (cs : List Char) : DecidablePred (Closes cs) := fun i =>
  inferInstanceAs (Decidable (StandsPlain cs '/' i ∧ ¬ InClass cs i))

instance (cs : List Char) : DecidablePred (FirstCloses cs) := fun i =>
  inferInstanceAs (Decidable (Closes cs i ∧ ∀ j < i, ¬ Closes cs j))

lemma Closes.lt_length {cs : List Char} {i : Nat} (h : Closes cs i) : i < cs.length :=
  (List.getElem?_eq_some_iff.1 h.1.1).1

/-- The bracket that opens the class of a place can be taken to be one that is in no class
itself. -/
lemma inClass_iff_opened_outside {cs : List Char} {i : Nat} :
    InClass cs i ↔ ∃ start < i, StandsPlain cs '[' start ∧ ¬ InClass cs start ∧
      ∀ j < i, start < j → ¬ StandsPlain cs ']' j := by
  classical
  constructor
  · intro h
    -- The first bracket that opens a class up to this place.
    obtain ⟨hlt, hopen, hnone⟩ := Nat.find_spec h
    refine ⟨Nat.find h, hlt, hopen, ?_, hnone⟩
    rintro ⟨start, hstart, hopen', hnone'⟩
    refine Nat.find_min h hstart ⟨hstart.trans hlt, hopen', fun j hji hj => ?_⟩
    rcases Nat.lt_trichotomy j (Nat.find h) with hlt' | rfl | hgt
    · exact hnone' j hlt' hj
    · exact fun hclose => absurd (hopen.1.symm.trans hclose.1) (by decide)
    · exact hnone j hji hgt
  · rintro ⟨start, hlt, hopen, -, hnone⟩
    exact ⟨start, hlt, hopen, hnone⟩

/-! ## Places in an end of a source -/

/-- A place inside of a class, if one may be open at the start. -/
def InClassFrom (opened : Prop) (cs : List Char) (i : Nat) : Prop :=
  (opened ∧ ∀ j < i, ¬ StandsPlain cs ']' j) ∨ InClass cs i

/-- A slash that ends a source, if a class may be open at the start. -/
def ClosesFrom (opened : Prop) (cs : List Char) (i : Nat) : Prop :=
  StandsPlain cs '/' i ∧ ¬ InClassFrom opened cs i

variable {opened : Prop} {cs : List Char} {c e d : Char} {i : Nat}

lemma closesFrom_false : ClosesFrom False cs i ↔ Closes cs i := by
  simp [ClosesFrom, InClassFrom, Closes]

@[simp] lemma inClassFrom_zero : InClassFrom opened cs 0 ↔ opened := by
  simp [InClassFrom, InClass]

/-- One character further, a class is open if that character opens it, or if it was open and that
character does not close it. -/
lemma inClassFrom_succ :
    InClassFrom opened cs (i + 1) ↔
      StandsPlain cs '[' i ∨ (InClassFrom opened cs i ∧ ¬ StandsPlain cs ']' i) := by
  constructor
  · rintro (⟨hopened, hnone⟩ | ⟨start, hlt, hopen, hnone⟩)
    · exact .inr ⟨.inl ⟨hopened, fun j hj => hnone j (Nat.lt_succ_of_lt hj)⟩,
        hnone i (Nat.lt_succ_self i)⟩
    · rcases Nat.eq_or_lt_of_le (Nat.le_of_lt_succ hlt) with rfl | hlt'
      · exact .inl hopen
      · exact .inr ⟨.inr ⟨start, hlt', hopen, fun j hj => hnone j (Nat.lt_succ_of_lt hj)⟩,
          hnone i (Nat.lt_succ_self i) hlt'⟩
  · rintro (hopen | ⟨⟨hopened, hnone⟩ | ⟨start, hlt, hopen, hnone⟩, hi⟩)
    · exact .inr ⟨i, Nat.lt_succ_self i, hopen, fun j hj hij => by omega⟩
    · refine .inl ⟨hopened, fun j hj => ?_⟩
      rcases Nat.eq_or_lt_of_le (Nat.le_of_lt_succ hj) with rfl | hlt
      · exact hi
      · exact hnone j hlt
    · refine .inr ⟨start, Nat.lt_succ_of_lt hlt, hopen, fun j hj => ?_⟩
      rcases Nat.eq_or_lt_of_le (Nat.le_of_lt_succ hj) with rfl | hlt'
      · exact fun _ => hi
      · exact hnone j hlt'

/-- If nothing in front of a text escapes its first character, then a place in the text is
inside of a class as it is with the front, and the front tells whether one is open at the
start. -/
lemma inClassFrom_append (front : List Char)
    (hplain : ∀ d i, StandsPlain (front ++ cs) d (i + front.length) ↔ StandsPlain cs d i) :
    InClassFrom opened (front ++ cs) (i + front.length) ↔
      InClassFrom (InClassFrom opened (front ++ cs) front.length) cs i := by
  induction i with
  | zero => rw [Nat.zero_add, inClassFrom_zero]
  | succ i ih => rw [Nat.add_right_comm, inClassFrom_succ, inClassFrom_succ, hplain, hplain, ih]

/-! ### Behind a character -/

lemma isEscaped_cons (hc : c ≠ '\\') : IsEscaped (c :: cs) (i + 1) ↔ IsEscaped cs i := by
  induction i with
  | zero => simp [IsEscaped, hc]
  | succ i ih =>
    rw [IsEscaped, ih, List.getElem?_cons_succ]
    rfl

lemma standsPlain_cons (hc : c ≠ '\\') :
    StandsPlain (c :: cs) d (i + 1) ↔ StandsPlain cs d i := by
  rw [StandsPlain, isEscaped_cons hc, List.getElem?_cons_succ]
  rfl

@[simp] lemma standsPlain_cons_zero : StandsPlain (c :: cs) d 0 ↔ c = d := by
  simp [StandsPlain, IsEscaped]

@[simp] lemma closesFrom_cons_zero : ClosesFrom opened (c :: cs) 0 ↔ c = '/' ∧ ¬ opened := by
  simp [ClosesFrom]

/-- A slash behind a character ends the source if it does so with the class open or not as that
character leaves it. -/
lemma closesFrom_cons (hc : c ≠ '\\') :
    ClosesFrom opened (c :: cs) (i + 1) ↔ ClosesFrom (c = '[' ∨ (opened ∧ c ≠ ']')) cs i := by
  have hclass : InClassFrom opened (c :: cs) (i + 1) ↔
      InClassFrom (InClassFrom opened (c :: cs) 1) cs i :=
    inClassFrom_append [c] fun d i => standsPlain_cons hc
  rw [ClosesFrom, standsPlain_cons hc, hclass, inClassFrom_succ]
  simp [ClosesFrom]

/-! ### Behind a backslash and a character -/

lemma isEscaped_escape : IsEscaped ('\\' :: e :: cs) (i + 2) ↔ IsEscaped cs i := by
  induction i with
  | zero => simp [IsEscaped]
  | succ i ih =>
    rw [IsEscaped, ih, List.getElem?_cons_succ, List.getElem?_cons_succ]
    rfl

lemma standsPlain_escape : StandsPlain ('\\' :: e :: cs) d (i + 2) ↔ StandsPlain cs d i := by
  rw [StandsPlain, isEscaped_escape, List.getElem?_cons_succ, List.getElem?_cons_succ]
  rfl

@[simp] lemma not_standsPlain_escaped : ¬ StandsPlain ('\\' :: cs) d 1 := by
  simp [StandsPlain, IsEscaped]

/-- A backslash and the character behind it leave a class open or not, as it was. -/
lemma closesFrom_escape :
    ClosesFrom opened ('\\' :: e :: cs) (i + 2) ↔ ClosesFrom opened cs i := by
  have hclass : InClassFrom opened ('\\' :: e :: cs) (i + 2) ↔
      InClassFrom (InClassFrom opened ('\\' :: e :: cs) 2) cs i :=
    inClassFrom_append ['\\', e] fun d i => standsPlain_escape
  rw [ClosesFrom, standsPlain_escape, hclass, inClassFrom_succ, inClassFrom_succ]
  simp [ClosesFrom]

lemma not_closesFrom_escape (hi : i < 2) : ¬ ClosesFrom opened ('\\' :: cs) i := by
  obtain rfl | rfl : i = 0 ∨ i = 1 := by omega
  · simp
  · simp [ClosesFrom]

end Grammar

/-! ## The source that is read -/

namespace Reading

/-- The class that the reader takes to be open behind a character. -/
lemma inClass_step {inClass : Bool} {c : Char} :
    ((if inClass then decide (c ≠ ']') else decide (c = '[')) = true) ↔
      (c = '[' ∨ (inClass = true ∧ c ≠ ']')) := by
  cases inClass with
  | false => simp
  | true =>
    have hne : c = '[' → c ≠ ']' := by
      rintro rfl
      decide
    simpa using hne

/-- What is read as a source ends at the first slash that ends it. -/
lemma firstCloses_of_regexSource {inClass : Bool} {cs source rest : List Char}
    (h : regexSource inClass cs = .ok (source, rest)) :
    ClosesFrom (inClass = true) cs source.length ∧
      ∀ j < source.length, ¬ ClosesFrom (inClass = true) cs j := by
  fun_induction regexSource inClass cs generalizing source rest with
  | case1 => simp [unexpected] at h
  | case2 => simp [unexpected] at h
  | case3 => simp at h
  | case4 inClass e cs s r hr ih =>
    obtain ⟨rfl, rfl⟩ := Prod.mk.inj (Except.ok.inj h)
    obtain ⟨hcloses, hfirst⟩ := ih hr
    refine ⟨closesFrom_escape.2 hcloses, fun j hj => ?_⟩
    -- An escape takes two characters, and the source ends at neither of them.
    rcases Nat.lt_or_ge j 2 with hlt | hge
    · exact not_closesFrom_escape hlt
    · obtain ⟨j, rfl⟩ := Nat.exists_eq_add_of_le' hge
      exact fun hj' => hfirst j (by simpa using hj) (closesFrom_escape.1 hj')
  | case5 inClass c rest hb hc =>
    obtain ⟨rfl, rfl⟩ := Prod.mk.inj (Except.ok.inj h)
    exact ⟨by simpa using hc, by simp⟩
  | case6 => simp at h
  | case7 inClass c cs hb hc s r hr ih =>
    obtain ⟨rfl, rfl⟩ := Prod.mk.inj (Except.ok.inj h)
    obtain ⟨hcloses, hfirst⟩ := ih hr
    simp only [inClass_step] at hcloses hfirst
    refine ⟨(closesFrom_cons hb).2 hcloses, fun j hj => ?_⟩
    cases j with
    | zero => simpa using hc
    | succ j => exact fun hj' => hfirst j (by simpa using hj) ((closesFrom_cons hb).1 hj')

lemma not_closes_of_regexSource {inClass : Bool} {cs : List Char} {f : Failure}
    (h : regexSource inClass cs = .error f) (j : Nat) :
    ¬ ClosesFrom (inClass = true) cs j := by
  fun_induction regexSource inClass cs generalizing j f with
  | case1 => simp [ClosesFrom, StandsPlain]
  | case2 =>
    rcases Nat.lt_or_ge j 2 with hlt | hge
    · exact not_closesFrom_escape hlt
    · obtain ⟨j, rfl⟩ := Nat.exists_eq_add_of_le' hge
      simp [ClosesFrom, StandsPlain]
  | case3 inClass e cs g hq ih =>
    rcases Nat.lt_or_ge j 2 with hlt | hge
    · exact not_closesFrom_escape hlt
    · obtain ⟨j, rfl⟩ := Nat.exists_eq_add_of_le' hge
      exact fun hj => ih hq j (closesFrom_escape.1 hj)
  | case4 => simp at h
  | case5 => simp at h
  | case6 inClass c cs hb hc g hq ih =>
    cases j with
    | zero => simpa using hc
    | succ j =>
      have hnone := ih hq j
      rw [inClass_step] at hnone
      exact fun hj => hnone ((closesFrom_cons hb).1 hj)
  | case7 => simp at h

/-- The source that is read is what stands before the first slash that ends it. -/
lemma regexSource_of_firstCloses {cs : List Char} {i : Nat} (h : FirstCloses cs i) :
    regexSource false cs = .ok (cs.take i, cs.drop (i + 1)) := by
  obtain ⟨hcloses, hfirst⟩ := h
  cases hread : regexSource false cs with
  | error f =>
    have hnone := not_closes_of_regexSource hread i
    simp only [Bool.false_eq_true, closesFrom_false] at hnone
    exact absurd hcloses hnone
  | ok pair =>
    obtain ⟨source, rest⟩ := pair
    obtain ⟨hcloses', hfirst'⟩ := firstCloses_of_regexSource hread
    simp only [Bool.false_eq_true, closesFrom_false] at hcloses' hfirst'
    obtain rfl : source.length = i := by
      refine Nat.le_antisymm (Nat.le_of_not_lt fun hlt => ?_) (Nat.le_of_not_lt fun hlt => ?_)
      · exact hfirst' i hlt hcloses
      · exact hfirst _ hlt hcloses'
    obtain ⟨rfl, -⟩ := regexSource_eq_ok_iff.1 hread
    simp [List.drop_append]

lemma regexSource_of_forall_not_closes {cs : List Char} (h : ∀ i, ¬ Closes cs i) :
    regexSource false cs = .error ⟨[], .unexpected (some .regularExpression)⟩ := by
  cases hread : regexSource false cs with
  | error f => rw [regexSource_eq_error hread]
  | ok pair =>
    have hcloses := (firstCloses_of_regexSource hread).1
    simp only [Bool.false_eq_true, closesFrom_false] at hcloses
    exact absurd hcloses (h _)

/-! ## Selectors with regular expressions -/

/-- A clause in which the reader comes to a value that fails, fails as the value does. -/
lemma clause_of_value_error {config : Config} {cs rest : List Char} {op : Operator} {f : Failure}
    (hd : DerivesToValue ('[' :: cs) op rest) (h : value config op rest = .error f) :
    clause config cs = .error f := by
  cases hd with
  | intro h₁ h₂ h₃ h₄ h₅ =>
    have hhead : ∀ {cs left : List Char}, DerivesOperator cs op left →
        cs.head? ≠ some '.' ∧ cs.head? ≠ some ']' := by
      rintro _ _ (_ | r)
      · simp
      · cases r <;> simp [TextRelation.sign]
    obtain ⟨hdot, hbracket⟩ := hhead h₄
    have hgap := gap_of_derivesMore h₃
    have hfirst := segment_eq_ok_iff.2 ⟨_, _, h₁, h₂, rfl⟩
    have hmore := moreSegments_eq_ok_iff.2 ⟨_, h₃, hdot, rfl⟩
    have hop := operator_eq_ok_iff.2 ⟨_, hgap, h₄⟩
    refine clause_eq_error_iff.2 (.comparison hfirst hmore ?_ ?_) <;>
      rw [skipBlanks_eq_iff.2 hgap]
    · exact hbracket
    · refine comparison_eq_error_iff.2 (.value hop ?_)
      rwa [skipBlanks_eq_iff.2 h₅]

end Reading

namespace Grammar

/-- In a text, the reader comes to a value at `rest`, with an operator before it: the name and the
clauses before that clause are read. -/
inductive ComesToValue (config : Config) : List Char → Operator → List Char → Prop where
  | intro {cs₁ cs₂ cs₃ cs₄ name rest : List Char} {clauses : List Clause} {ps : List Predicate}
      {op : Operator} (h₁ : Gap cs₁ (name ++ cs₂)) (h₂ : IsRun Reading.isNameChar name cs₂)
      (h₃ : Gap cs₂ cs₃) (h₄ : DerivesLeading cs₃ clauses cs₄)
      (h₅ : List.Forall₂ (Clause.Denotes config) clauses ps) (h₆ : DerivesToValue cs₄ op rest) :
      ComesToValue config cs₁ op rest

end Grammar

lemma Grammar.DerivesToValue.exists_eq_cons {cs rest : List Char} {op : Operator}
    (h : DerivesToValue cs op rest) : ∃ cs', cs = '[' :: cs' := by
  cases h
  exact ⟨_, rfl⟩

lemma Reading.selector_of_value_error {config : Config} {cs rest : List Char} {op : Operator}
    {f : Failure} (hd : ComesToValue config cs op rest) (h : value config op rest = .error f) :
    selector config cs = .error f := by
  obtain ⟨h₁, h₂, h₃, h₄, h₅, h₆⟩ := hd
  obtain ⟨w, rfl⟩ := h₆.exists_eq_cons
  have hopen : skipBlanks ('[' :: w) = '[' :: w := skipBlanks_cons (by decide) w
  have hclauses := clauses_of_clause_error hopen (clause_of_value_error h₆ h)
  refine selector_of_clauses_error (run_eq_iff.2 ⟨skipBlanks_eq_iff.2 h₁, h₂⟩) ?_
  rw [clauses_of_gap h₃, clauses_of_derivesLeading h₄ h₅, hclauses]
  rfl

/-- The source of a regular expression in a clause is one that the grammar knows. -/
lemma Grammar.DerivesClause.regexBody {config : Config} {cs rest : List Char} {clause : Clause}
    {p : Predicate} (hd : DerivesClause cs clause rest) (hp : clause.Denotes config p) {r : Regex}
    (hr : p.comparison.operand? = some (.regex r)) : RegexBody false r.source.toList := by
  obtain ⟨-, -, -, hcomparison⟩ := hd
  have hden := hp.comparison
  generalize p.comparison = c at hden hr
  generalize p.caseSensitive = b at hden
  cases hden with
  | absent => simp [Comparison.operand?] at hr
  | present hv hc =>
    cases hc with
    | relates => simp [Comparison.operand?] at hr
    | equals v =>
      obtain rfl := Option.some.inj hr
      cases hv with
      | regex hcompile =>
        cases hcomparison with
        | present _ _ hliteral =>
          cases hliteral with
          | regex hs =>
            rw [(Regex.compile_eq_ok_iff.1 hcompile).1]
            simpa using hs

lemma Reading.regexBody_of_clauses {config : Config} {cs : List Char} {ps : List Predicate}
    (h : clauses config cs = .ok (ps, [])) :
    ∀ p ∈ ps, ∀ r, p.comparison.operand? = some (.regex r) → RegexBody false r.source.toList := by
  induction ps generalizing cs with
  | nil => simp
  | cons p ps ih =>
    obtain ⟨left, left', -, hclause, hclauses⟩ := clauses_cons_iff.1 h
    obtain ⟨clause, hd, hden⟩ := clause_eq_ok_iff.1 hclause
    exact List.forall_mem_cons.2 ⟨fun r hr => hd.regexBody hden hr, ih hclauses⟩

/-- A regular expression whose source the grammar knows is read from what it is written as. -/
lemma Selector.parse_regex_text {r : Regex} (h : RegexBody false r.source.toList)
    (config : Config) :
    Selector.parse config ("[a=" ++ r.text ++ "]") =
      .ok ⟨"", [⟨["a"], List.cons_ne_nil _ _, .equals (.regex r), true⟩]⟩ := by
  have htext : ("[a=" ++ r.text ++ "]").toList =
      '[' :: (['a'] ++ '=' :: '/' :: (r.source.toList ++ '/' :: (r.flags.toList ++ [']']))) := by
    simp [Regex.text]
  have hgap : ∀ {c : Char} (cs : List Char), isBlank c = false → Gap (c :: cs) (c :: cs) :=
    fun cs hc => gap_self (by simpa using hc)
  have hflags : IsRun Regex.isFlag r.flags.toList [']'] :=
    .before_cons (fun c hc => List.contains_iff_mem.2 (r.mem_letters_of_mem_flags c hc)) (by decide)
  have hcompile : Regex.compile (String.ofList r.source.toList) (String.ofList r.flags.toList) =
      .ok r := by
    rw [String.ofList_toList, String.ofList_toList]
    exact Regex.compile_eq_ok_iff.2 ⟨rfl, rfl⟩
  have hname : Reading.isNameChar 'a' = true := by decide
  have hclause : DerivesClause ("[a=" ++ r.text ++ "]").toList
      ⟨.bare ['a'], [], some (.equals, .regex r.source.toList r.flags.toList)⟩ [] := by
    rw [htext]
    exact .intro (hgap _ (by decide))
      (.bare (List.cons_ne_nil _ _) (.before_cons (by simpa using hname) (by decide)))
      (.nil (hgap _ (by decide)))
      (.present (.equals _) (hgap _ (by decide)) (.regex h hflags) (hgap _ (by decide)))
  exact parse_of_derivesClause hclause ⟨rfl, .present (.regex hcompile) (.equals _)⟩

/-- **Regular expressions end where the grammar says, and are read from what they are written as.**
Behind its first slash, a regular expression ends at the first slash that is neither escaped nor
inside of a class: its source is what stands before that slash, its flags are the longest run of
flags behind it, and what these compile to is the result.  If there is no such slash, the selector
ends too early, whatever else stands in it.  A regular expression in a selector that has been read
is read from its own text, under any settings. -/
theorem Reading.regexLiteral_delimited (config : Config) :
    (∀ cs place, FirstCloses cs place →
      ∃ flags rest, cs = cs.take place ++ '/' :: (flags ++ rest) ∧
        IsRun Regex.isFlag flags rest ∧
        regexSource false cs = .ok (cs.take place, flags ++ rest) ∧
        (∀ r, Regex.compile (String.ofList (cs.take place)) (String.ofList flags) = .ok r →
          regexLiteral cs = .ok (r, rest) ∧ r.source = String.ofList (cs.take place) ∧
            r.flags = String.ofList flags) ∧
        ∀ refusal,
          Regex.compile (String.ofList (cs.take place)) (String.ofList flags) = .error refusal →
          regexLiteral cs = .error ⟨'/' :: cs, .invalidRegex refusal.message⟩) ∧
    (∀ cs, (∀ place, ¬ Closes cs place) →
      regexLiteral cs = .error ⟨[], .unexpected (some .regularExpression)⟩ ∧
      ∀ text : String, ComesToValue config text.toList .equals ('/' :: cs) →
        Selector.parse config text =
          .error ⟨text, .unexpectedEnd text.toList.length (some .regularExpression)⟩) ∧
    ∀ text s, Selector.parse config text = .ok s → ∀ p ∈ s.predicates, ∀ r,
      p.comparison.operand? = some (.regex r) → ∀ config',
        Selector.parse config' ("[a=" ++ r.text ++ "]") =
          .ok ⟨"", [⟨["a"], List.cons_ne_nil _ _, .equals (.regex r), true⟩]⟩ := by
  refine ⟨fun cs place h => ?_, fun cs h => ?_, fun text s h p hp r hr config' => ?_⟩
  · have hsource := regexSource_of_firstCloses h
    obtain ⟨hcs, -⟩ := regexSource_eq_ok_iff.1 hsource
    -- The flags are the letters behind the slash; whether they compile decides about the whole.
    obtain ⟨flags, rest, hdrop, hrun, hflags⟩ := exists_run Regex.isFlag (cs.drop (place + 1))
    rw [hdrop] at hsource hcs
    refine ⟨flags, rest, hcs, hrun, hsource, fun r hr => ⟨?_, ?_⟩, fun refusal hrefusal => ?_⟩
    · simp only [regexLiteral, hsource, run_append_eq hrun, hr]
    · exact Regex.compile_eq_ok_iff.1 hr
    · simp only [regexLiteral, hsource, run_append_eq hrun, hrefusal]
  · have hliteral : regexLiteral cs = .error ⟨[], .unexpected (some .regularExpression)⟩ := by
      simp only [regexLiteral, regexSource_of_forall_not_closes h]
    have hvalue : value config .equals ('/' :: cs) =
        .error ⟨[], .unexpected (some .regularExpression)⟩ := by
      simp only [value, hliteral, if_true]
    -- The end of the text is as well the end of the selector, whatever stands before the value.
    exact ⟨hliteral, fun text htext =>
      Selector.parse_eq_error_iff.2 ⟨_, selector_of_value_error htext hvalue, rfl⟩⟩
  · obtain ⟨left, -, hclauses, -⟩ := selector_iff.1 (Selector.parse_eq_ok_iff.1 h)
    exact Selector.parse_regex_text (regexBody_of_clauses hclauses p hp r hr) config'

/-- A slash in a class and one behind a backslash are parts of a source; a class that is not closed
takes the last slash of a text. -/
theorem Reading.regexLiteral_delimited_class :
    FirstCloses "[/]\\//gi]".toList 5 ∧ (∀ place, ¬ Closes "[/i]".toList place) ∧
      ComesToValue ⟨false⟩ "x[a=/[/i]".toList .equals ('/' :: "[/i]".toList) ∧
      Selector.parse ⟨false⟩ "x[a=/[/i]" =
        .error ⟨"x[a=/[/i]", .unexpectedEnd 9 (some .regularExpression)⟩ ∧
      ∃ r, regexLiteral "[/]\\//gi]".toList = .ok (r, [']']) ∧ r.source = "[/]\\/" ∧
        r.flags = "gi" ∧
        Selector.parse ⟨false⟩ "[a=/[/]\\//gi]" =
          .ok ⟨"", [⟨["a"], List.cons_ne_nil _ _, .equals (.regex r), true⟩]⟩ ∧
        Selector.parse ⟨true⟩ ("[a=" ++ r.text ++ "]") =
          .ok ⟨"", [⟨["a"], List.cons_ne_nil _ _, .equals (.regex r), true⟩]⟩ := by
  have hcloses : FirstCloses "[/]\\//gi]".toList 5 := by decide
  have hnone : ∀ place, ¬ Closes "[/i]".toList place := fun place hplace =>
    (by decide : ∀ j < 4, ¬ Closes "[/i]".toList j) place hplace.lt_length hplace
  have hgap : ∀ (c : Char) (cs : List Char), isBlank c = false → Gap (c :: cs) (c :: cs) :=
    fun _ _ hc => gap_self (by simpa using hc)
  have hrun : ∀ (c d : Char) (cs : List Char), isNameChar c = true → isNameChar d = false →
      IsRun isNameChar [c] (d :: cs) :=
    fun _ _ _ hc hd => .before_cons (by simpa using hc) hd
  have hclause : DerivesToValue ('[' :: 'a' :: '=' :: '/' :: "[/i]".toList) .equals
      ('/' :: "[/i]".toList) :=
    .intro (hgap 'a' _ (by decide))
      (.bare (List.cons_ne_nil _ _) (hrun 'a' '=' _ (by decide) (by decide)))
      (.nil (hgap '=' _ (by decide))) (.equals _) (hgap '/' _ (by decide))
  have hname : Gap "x[a=/[/i]".toList (['x'] ++ '[' :: 'a' :: '=' :: '/' :: "[/i]".toList) :=
    hgap 'x' _ (by decide)
  have hcomes : ComesToValue ⟨false⟩ "x[a=/[/i]".toList .equals ('/' :: "[/i]".toList) :=
    .intro hname (hrun 'x' '[' _ (by decide) (by decide))
      (hgap '[' _ (by decide)) (.nil _) .nil hclause
  obtain ⟨r, hr⟩ : ∃ r, Regex.compile "[/]\\/" "gi" = .ok r := by
    have hok : (Regex.compile "[/]\\/" "gi").isOk = true := by decide +kernel
    cases hcompile : Regex.compile "[/]\\/" "gi" with
    | ok r => exact ⟨r, rfl⟩
    | error refusal => simp [hcompile, Except.isOk, Except.toBool] at hok
  obtain ⟨hends, hunending, hagain⟩ := regexLiteral_delimited ⟨false⟩
  obtain ⟨flags, rest, hcs, hrun, -, hliteral, -⟩ := hends _ _ hcloses
  obtain ⟨rfl, rfl⟩ : flags = "gi".toList ∧ rest = [']'] := by
    have hdrop : flags ++ rest = "gi]".toList := by simpa using hcs.symm
    have hread := run_append_eq hrun
    rw [hdrop] at hread
    exact Prod.mk.inj hread.symm
  obtain ⟨hliteral, hsource, hflags⟩ := hliteral r hr
  have hvalue : value ⟨false⟩ .equals "/[/]\\//gi]".toList = .ok ((.regex r, true), [']']) := by
    change value ⟨false⟩ .equals ('/' :: "[/]\\//gi]".toList) = _
    simp only [value, hliteral, if_true]
  have hcomparison : comparison ⟨false⟩ ('=' :: "/[/]\\//gi]".toList) =
      .ok ((.equals (.regex r), true), []) :=
    comparison_iff.2 ⟨.equals, _, _, rfl, ⟨_, hvalue, hgap ']' _ (by decide)⟩, .equals _⟩
  have hparse : Selector.parse ⟨false⟩ "[a=/[/]\\//gi]" = _ :=
    Selector.parse_of_comparison _ (by decide) hcomparison
  refine ⟨hcloses, hnone, hcomes, (hunending _ hnone).2 _ hcomes, r, hliteral, hsource, hflags,
    hparse, hagain _ _ hparse _ (List.mem_singleton_self _) r rfl ⟨true⟩⟩

end ComponentQuery
