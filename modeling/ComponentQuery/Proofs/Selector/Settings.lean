import ComponentQuery.Proofs.Selector.Location

/-!
# The two settings of the reader

The settings decide what a token without quotation marks stands for: where numbers are wanted it
must be a number or a boolean, and where texts are allowed it may be anything.  Nothing else depends
on them, so that the two readings of one text go along with each other up to the first token that is
refused where numbers are wanted, either for being no number, or, with its bracket read, for being a
number behind a relation between texts.

If there is no such token, the same tree is derived, and the two selectors differ in numbers only,
each of which becomes the token as written (`Clause.Agrees`).  If there is one, the reading for
numbers stops at its first character, and the reading for texts goes further.

The main result is `Selector.parse_settings`.
-/

namespace ComponentQuery

open Grammar

namespace Grammar

/-! ## Selectors that are read in both settings -/

/-- The operands of a comparison as written, where numbers are wanted and where texts are allowed: a
number becomes the token as written, and all else is the same. -/
inductive OperandsAgree : Option (Operator × Literal) → Option Operand → Option Operand → Prop where
  | same {written : Option (Operator × Literal)} {v : Option Operand}
      (h : ∀ x, v ≠ some (.number x)) : OperandsAgree written v v
  | number (op : Operator) (token : List Char) (x : Binary64) :
      OperandsAgree (some (op, .token token)) (some (.number x))
        (some (.text (String.ofList token)))

/-- The predicates of a clause as written, where numbers are wanted and where texts are allowed. -/
structure Clause.Agrees (written : Clause) (p q : Predicate) : Prop where
  path : q.path = p.path
  operator : q.comparison.operator = p.comparison.operator
  caseSensitive : q.caseSensitive = p.caseSensitive
  operand : OperandsAgree written.comparison p.comparison.operand? q.comparison.operand?

/-- A value stands for the same operand in both settings, or for a number and for a text. -/
lemma Literal.denotes_cases {l : Literal} {v : Operand} {caseSensitive : Bool}
    (h : l.Denotes ⟨false⟩ v caseSensitive) :
    (l.Denotes ⟨true⟩ v caseSensitive ∧ ∀ x, v ≠ .number x) ∨
      ∃ token x, l = .token token ∧ v = .number x ∧
        l.Denotes ⟨true⟩ (.text (String.ofList token)) caseSensitive := by
  cases h with
  | text => exact .inl ⟨.text _ _, by simp⟩
  | regex hcompile => exact .inl ⟨.regex hcompile, by simp⟩
  | true => exact .inl ⟨.true, by simp⟩
  | false => exact .inl ⟨.false, by simp⟩
  | zero => exact .inr ⟨[], _, rfl, rfl, .string rfl (by decide) (by decide)⟩
  | @number token _ _ hx =>
    have htrue : token ≠ "true".toList := Reading.ne_of_numericLiteral hx rfl
    have hfalse : token ≠ "false".toList := Reading.ne_of_numericLiteral hx rfl
    exact .inr ⟨_, _, rfl, rfl, .string rfl htrue hfalse⟩
  | string hc => exact absurd hc (by simp)

/-- What a comparison stands for where numbers are wanted tells what it stands for where texts are
allowed. -/
lemma exists_denotesComparison {written : Option (Operator × Literal)} {c : Comparison}
    {caseSensitive : Bool} (h : DenotesComparison ⟨false⟩ written c caseSensitive) :
    ∃ d, DenotesComparison ⟨true⟩ written d caseSensitive ∧ d.operator = c.operator ∧
      OperandsAgree written c.operand? d.operand? := by
  cases h with
  | absent => exact ⟨.truthy, .absent, rfl, .same (by simp [Comparison.operand?])⟩
  | present hv hc =>
    rcases Literal.denotes_cases hv with ⟨hw, hx⟩ | ⟨token, x, rfl, rfl, hw⟩
    · refine ⟨c, .present hw hc, rfl, .same fun x => ?_⟩
      cases hc with
      | equals => simpa [Comparison.operand?] using hx x
      | relates => simp [Comparison.operand?]
    · cases hc with
      | equals => exact ⟨_, .present hw (.equals _), rfl, .number _ token x⟩

lemma Clause.exists_agrees {written : Clause} {p : Predicate} (h : written.Denotes ⟨false⟩ p) :
    ∃ q, written.Denotes ⟨true⟩ q ∧ written.Agrees p q := by
  obtain ⟨hpath, hcomparison⟩ := h
  obtain ⟨d, hd, hoperator, hoperand⟩ := exists_denotesComparison hcomparison
  exact ⟨⟨p.path, p.path_ne_nil, d, p.caseSensitive⟩, ⟨hpath, hd⟩, rfl, hoperator, rfl, hoperand⟩

/-- Clauses that stand for predicates where numbers are wanted do so where texts are allowed. -/
lemma exists_agree {written : List Clause} {ps : List Predicate}
    (h : List.Forall₂ (Clause.Denotes ⟨false⟩) written ps) :
    ∃ qs, List.Forall₂ (Clause.Denotes ⟨true⟩) written qs ∧ qs.length = ps.length ∧
      List.Forall₂ (fun clause pq => clause.Agrees pq.1 pq.2) written (ps.zip qs) := by
  induction h with
  | nil => exact ⟨[], .nil, rfl, .nil⟩
  | cons hp _ ih =>
    obtain ⟨q, hq, hagrees⟩ := Clause.exists_agrees hp
    obtain ⟨qs, hqs, hlength, hall⟩ := ih
    exact ⟨q :: qs, .cons hq hqs, by simp [hlength], .cons hagrees hall⟩

end Grammar

namespace Reading

/-! ## Tokens that are refused -/

/-- A value is read in the same way in both settings, or it is a token that is no boolean: a text
where texts are allowed, and where numbers are wanted a number or refused. -/
lemma value_settings (op : Operator) (cs : List Char) :
    value ⟨true⟩ op cs = value ⟨false⟩ op cs ∨
      ∃ token after, cs = token ++ after ∧ IsRun isTokenChar token after ∧ StartsToken cs ∧
        token ≠ "true".toList ∧ token ≠ "false".toList ∧
        value ⟨true⟩ op cs = .ok ((.text (String.ofList token), true), after) ∧
        (token ≠ [] ∧ value ⟨false⟩ op cs = .error ⟨cs, .unexpected (some .attributeValue)⟩ ∨
          ∃ x, value ⟨false⟩ op cs = .ok ((.number x, true), after)) := by
  -- A value that is no token is read alike, and so is a token that spells a boolean.
  rcases value_cases cs with ⟨cs, rfl⟩ | ⟨mark, cs, rfl, hm⟩ | hstart
  · exact .inl rfl
  · exact .inl (by rw [value_mark hm, value_mark hm])
  · obtain ⟨token, after, rfl, hrun, hread⟩ := exists_run isTokenChar cs
    simp only [value_of_startsToken hstart, unquotedValue, hread]
    by_cases htrue : token = "true".toList
    · subst htrue
      exact .inl rfl
    by_cases hfalse : token = "false".toList
    · subst hfalse
      exact .inl rfl
    refine .inr ⟨token, after, rfl, hrun, hstart, htrue, hfalse, ?_, ?_⟩
    · have htext : (Literal.token token).Denotes ⟨true⟩ (.text (String.ofList token)) true :=
        .string rfl htrue hfalse
      simp only [tokenOperand?_eq_some_iff.2 htext]
    · by_cases hempty : token = []
      · subst hempty
        exact .inr ⟨_, rfl⟩
      · have hnumber : tokenOperand? ⟨false⟩ token = (numericLiteral? token).map .number := by
          rw [tokenOperand?, if_neg hempty, if_neg htrue, if_neg hfalse, if_neg (by decide)]
        rw [hnumber]
        cases numericLiteral? token with
        | none => exact .inl ⟨hempty, rfl⟩
        | some x => exact .inr ⟨x, rfl⟩

/-- A failure at a token that is no boolean: it is no number, or an operator refuses it as one. -/
structure RefusesToken (op : Operator) (token after : List Char) (f : Failure) : Prop where
  rest : f.rest = token ++ after
  ne_nil : f.rest ≠ []
  run : IsRun isTokenChar token after
  start : StartsToken (token ++ after)
  ne_true : token ≠ "true".toList
  ne_false : token ≠ "false".toList
  cause : f.cause = .unexpected (some .attributeValue) ∨ ∃ v, f.cause = .nonTextOperand op v

lemma exists_makes_text {cs rest : List Char} {op : Operator} (h : operator cs = .ok (op, rest))
    (s : String) : ∃ c, Makes op (.text s) c := by
  obtain ⟨cs', -, hop⟩ := operator_eq_ok_iff.1 h
  cases hop with
  | equals => exact ⟨_, .equals _⟩
  | relates r => exact ⟨_, .relates r s⟩

/-- Behind a text, a comparison is read up to its bracket or fails there. -/
lemma left_comparison_text {config : Config} {cs start after : List Char} {op : Operator}
    {text : String} (ho : operator cs = .ok (op, start))
    (hv : value config op (skipBlanks start) = .ok ((.text text, true), after)) :
    left (comparison config cs) <:+ after ∧
      ∀ rest, skipBlanks after = ']' :: rest → left (comparison config cs) = rest := by
  obtain ⟨c, hc⟩ := exists_makes_text ho text
  have hmakes := ofOperand_eq_ok_iff.2 hc
  have hsuffix := skipBlanks_isSuffix after
  unfold comparison
  simp only [ho, hv]
  split
  case h_1 rest hclose =>
    rw [hclose] at hsuffix
    simp only [hmakes]
    refine ⟨(List.suffix_cons ']' rest).trans hsuffix, fun rest' hrest' => ?_⟩
    exact (List.cons.inj (hclose.symm.trans hrest')).2
  case h_2 hopen => exact ⟨hsuffix, fun rest hrest => absurd hrest (hopen rest)⟩

/-- If a comparison fails where numbers are wanted, it fails in the same way where texts are
allowed, or it fails at a token, and the reading for texts goes further. -/
lemma comparison_settings {cs : List Char} {f : Failure} (h : comparison ⟨false⟩ cs = .error f) :
    comparison ⟨true⟩ cs = .error f ∨
      ∃ op start token after, operator cs = .ok (op, start) ∧
        skipBlanks start = token ++ after ∧ RefusesToken op token after f ∧
        (left (comparison ⟨true⟩ cs)).length < f.rest.length := by
  have hiff : comparison ⟨true⟩ cs = .error f ↔ ComparisonFails ⟨true⟩ cs f :=
    comparison_eq_error_iff
  rw [hiff]
  -- The comparison fails at its operator, at its value, for want of a bracket, or since the
  -- operator does not take the operand. In all but the first, the value is a token that has two
  -- readings, or it is read alike.
  cases comparison_eq_error_iff.1 h with
  | operator ho => exact .inl (.operator ho)
  | @value op start _ ho hv =>
    rcases value_settings op (skipBlanks start) with
      hsame | ⟨token, after, hcs, hrun, hstart, htrue, hfalse, htext, ⟨hne, herror⟩ | ⟨x, hok⟩⟩
    · exact .inl (.value ho (hsame.trans hv))
    · obtain rfl := Except.error.inj (herror.symm.trans hv)
      have hlength := (left_comparison_text ho htext).1.length_le
      have hpos := List.length_pos_of_ne_nil hne
      have hne' : skipBlanks start ≠ [] := by simp [hcs, hne]
      refine .inr ⟨op, start, token, after, ho, hcs, ⟨hcs, hne', hrun, hcs ▸ hstart, htrue, hfalse,
        .inl rfl⟩, ?_⟩
      simp only [hcs, List.length_append]
      omega
    · simp [hok] at hv
  | @bracket op start _ _ ho hv hopen =>
    rcases value_settings op (skipBlanks start) with
      hsame | ⟨token, after, -, -, -, -, -, htext, ⟨-, herror⟩ | ⟨x, hok⟩⟩
    · exact .inl (.bracket ho (hsame.trans hv) hopen)
    · simp [herror] at hv
    · obtain ⟨-, rfl⟩ := Prod.mk.inj (Except.ok.inj (hok.symm.trans hv))
      exact .inl (.bracket ho htext hopen)
  | @operand op start _ rest _ ho hv hclose hmakes =>
    rcases value_settings op (skipBlanks start) with
      hsame | ⟨token, after, hcs, hrun, hstart, htrue, hfalse, htext, ⟨-, herror⟩ | ⟨x, hok⟩⟩
    · exact .inl (.operand ho (hsame.trans hv) hclose hmakes)
    · simp [herror] at hv
    · obtain ⟨rfl, rfl⟩ := Prod.mk.inj (Except.ok.inj (hok.symm.trans hv))
      -- The token is a number here; as a text the operator takes it, and the bracket is passed.
      have hleft := (left_comparison_text ho htext).2 rest hclose
      have hlength := (skipBlanks_isSuffix after).length_le
      rw [hclose, List.length_cons] at hlength
      have hafter : after ≠ [] := by
        rintro rfl
        simp at hlength
      have hne' : skipBlanks start ≠ [] := by simp [hcs, hafter]
      refine .inr ⟨op, start, token, after, ho, hcs, ⟨hcs, hne', hrun, hcs ▸ hstart, htrue, hfalse,
        .inr ⟨_, rfl⟩⟩, ?_⟩
      simp only [hleft, hcs, List.length_append]
      omega

lemma left_clause {config : Config} {cs rest rest' : List Char} {s : String} {path : List String}
    (hs : segment cs = .ok (s, rest)) (hm : moreSegments rest = .ok (path, rest'))
    (hopen : (skipBlanks rest').head? ≠ some ']') :
    left (clause config cs) = left (comparison config (skipBlanks rest')) := by
  unfold clause
  simp only [hs, hm]
  split
  case h_1 hclose => simp [hclose] at hopen
  case h_2 => cases comparison config (skipBlanks rest') <;> rfl

/-- If a clause fails where numbers are wanted, it fails in the same way where texts are allowed, or
it fails at a token, and the reading for texts goes further. -/
lemma clause_settings {cs : List Char} {f : Failure} (h : clause ⟨false⟩ cs = .error f) :
    clause ⟨true⟩ cs = .error f ∨
      ∃ op token after, DerivesToValue ('[' :: cs) op (token ++ after) ∧
        RefusesToken op token after f ∧ (left (clause ⟨true⟩ cs)).length < f.rest.length := by
  have hiff : clause ⟨true⟩ cs = .error f ↔ ClauseFails ⟨true⟩ cs f := clause_eq_error_iff
  rw [hiff]
  cases clause_eq_error_iff.1 h with
  | first hs => exact .inl (.first hs)
  | more hs hm => exact .inl (.more hs hm)
  | comparison hs hm hopen hc =>
    rcases comparison_settings hc with hsame | ⟨op, start, token, after, ho, hcs, hrefuses, hlength⟩
    · exact .inl (.comparison hs hm hopen hsame)
    · refine .inr ⟨op, token, after, hcs ▸ derivesToValue_of_operator hs hm ho, hrefuses, ?_⟩
      rwa [left_clause hs hm hopen]

/-- If a selector fails where numbers are wanted, it fails in the same way where texts are allowed,
or it fails at a token, and the reading for texts goes further. -/
lemma selector_settings {cs : List Char} {f : Failure} (h : selector ⟨false⟩ cs = .error f) :
    selector ⟨true⟩ cs = .error f ∨
      ∃ op token after, ValueStart cs op (token ++ after) ∧ RefusesToken op token after f ∧
        ∀ g, selector ⟨true⟩ cs = .error g → g.rest.length < f.rest.length := by
  cases selector_eq_error h with
  | @clauses name start _ hname hc =>
    obtain ⟨cs', written, ps, w, hg, hd, hall, hclause⟩ := clauses_eq_error hc
    obtain ⟨qs, hqs, -, -⟩ := exists_agree hall
    have htexts : clauses ⟨true⟩ start = withLeading qs (clauses ⟨true⟩ ('[' :: w)) :=
      (clauses_of_gap hg).trans (clauses_of_derivesLeading hd hqs)
    have hopen : skipBlanks ('[' :: w) = '[' :: w := skipBlanks_cons (by decide) w
    rcases clause_settings hclause with hsame | ⟨op, token, after, hvalue, hrefuses, hlength⟩
    · refine .inl (selector_of_clauses_error hname ?_)
      rw [htexts, clauses_of_clause_error hopen hsame]
      rfl
    · obtain ⟨hcs, hrun⟩ := run_eq_iff.1 hname
      have hgap := gap_skipBlanks cs
      rw [hcs] at hgap
      refine .inr ⟨op, token, after, .intro hgap hrun hg hd hvalue, hrefuses, fun g hfails => ?_⟩
      have hleft : (left (clauses ⟨true⟩ start)).length ≤ (left (clause ⟨true⟩ w)).length :=
        calc (left (clauses ⟨true⟩ start)).length
            = (left (clauses ⟨true⟩ ('[' :: w))).length := by rw [htexts, left_withLeading]
          _ ≤ (left (clause ⟨true⟩ w)).length := (left_clauses_bracket ⟨true⟩ w).length_le
      -- Where texts are allowed the reading may fail as well, but not before the clause at hand.
      cases selector_eq_error hfails with
      | clauses hname' hc' =>
        obtain ⟨-, rfl⟩ := Prod.mk.inj (hname.symm.trans hname')
        rw [hc'] at hleft
        exact Nat.lt_of_le_of_lt hleft hlength
      | behind hname' hc' =>
        obtain ⟨-, rfl⟩ := Prod.mk.inj (hname.symm.trans hname')
        rw [hc'] at hleft
        exact Nat.lt_of_le_of_lt hleft hlength
      | empty => exact Nat.lt_of_le_of_lt (Nat.zero_le _) hlength
  | @behind name start after c _ hname hc =>
    obtain ⟨cs', written, hg, hd, hall, hgap, hopen⟩ := clauses_eq_ok hc
    obtain ⟨qs, hqs, -, -⟩ := exists_agree hall
    have htexts : clauses ⟨true⟩ start = withLeading qs (.ok ([], c :: after)) :=
      calc clauses ⟨true⟩ start = clauses ⟨true⟩ cs' := clauses_of_gap hg
        _ = withLeading qs (clauses ⟨true⟩ (c :: after)) := clauses_of_derivesLeading hd hqs
        _ = withLeading qs (.ok ([], c :: after)) := by rw [clauses_of_no_bracket hgap hopen]
    exact .inl (selector_of_behind hname htexts)
  | empty hblank => exact .inl (selector_of_blank hblank)

/-- What is read where numbers are wanted is read where texts are allowed, from the same tree. -/
lemma exists_selector_agrees {cs : List Char} {p : Selector} (h : selector ⟨false⟩ cs = .ok p) :
    ∃ tree q, Derives cs tree ∧ tree.Denotes ⟨false⟩ p ∧ selector ⟨true⟩ cs = .ok q ∧
      tree.Denotes ⟨true⟩ q ∧ q.name = p.name ∧ q.predicates.length = p.predicates.length ∧
      List.Forall₂ (fun clause pq => clause.Agrees pq.1 pq.2) tree.clauses
        (p.predicates.zip q.predicates) := by
  obtain ⟨tree, hd, hname, hall⟩ := selector_eq_ok_iff.1 h
  obtain ⟨qs, hqs, hlength, hagree⟩ := exists_agree hall
  have hden : tree.Denotes ⟨true⟩ ⟨p.name, qs⟩ := ⟨hname, hqs⟩
  have hread := selector_eq_ok_iff.2 ⟨tree, hd, hden⟩
  exact ⟨tree, _, hd, ⟨hname, hall⟩, hread, hden, rfl, hlength, hagree⟩

/-- Whether there is anything in a text does not depend on the settings. -/
lemma error_ne_empty_of_error {config config' : Config} {cs : List Char} {f g : Failure}
    (hf : selector config cs = .error f) (hne : f.cause ≠ .empty)
    (hg : selector config' cs = .error g) : g.cause ≠ .empty := by
  intro hempty
  have hblank := selector_error_empty_iff.1 ⟨g, hg, hempty⟩
  obtain ⟨f', hf', hempty'⟩ : ∃ f, selector config cs = .error f ∧ f.cause = .empty :=
    selector_error_empty_iff.2 hblank
  obtain rfl := Except.error.inj (hf.symm.trans hf')
  exact hne hempty'

end Reading

/-! ## Texts in both settings -/

/-- As the value of a clause, a token that is no boolean stands at a place of a text. -/
def TokenAt (text : List Char) (position : Nat) : Prop :=
  ∃ op token after, text.drop position = token ++ after ∧ ValueStart text op (token ++ after) ∧
    Reading.StartsToken (token ++ after) ∧ IsRun Reading.isTokenChar token after ∧
    token ≠ "true".toList ∧ token ≠ "false".toList

lemma Reading.RefusesToken.problemAt {op : Operator} {token after : List Char} {f : Failure}
    (h : RefusesToken op token after f) (position : Nat) :
    (∃ op operand, f.problemAt position = .nonTextOperand position op operand) ∨
      ∃ symbol,
        f.problemAt position = .unexpectedSymbol symbol position (some .attributeValue) := by
  obtain ⟨rest, cause⟩ := f
  rcases h.cause with hcause | ⟨v, hcause⟩
  · obtain rfl : cause = .unexpected (some .attributeValue) := hcause
    obtain ⟨c, rest, rfl⟩ := List.exists_cons_of_ne_nil h.ne_nil
    exact .inr ⟨c, rfl⟩
  · obtain rfl : cause = .nonTextOperand op v := hcause
    exact .inl ⟨op, v, rfl⟩

lemma Reading.RefusesToken.tokenAt {op : Operator} {text token after : List Char} {f : Failure}
    (h : RefusesToken op token after f) (hsuffix : f.rest <:+ text)
    (hvalue : ValueStart text op (token ++ after)) : TokenAt text (placeOf text f.rest) :=
  ⟨op, token, after, (drop_placeOf hsuffix).trans h.rest, hvalue, h.start, h.run, h.ne_true,
    h.ne_false⟩

/-- Every problem but one has a place. -/
lemma Reading.Failure.position?_problemAt {f : Failure} (h : f.cause ≠ .empty) (position : Nat) :
    (f.problemAt position).position? = some position := by
  obtain ⟨rest, cause⟩ := f
  cases cause with
  | unexpected => cases rest <;> rfl
  | invalidRegex => rfl
  | regexOperator => rfl
  | nonTextOperand => rfl
  | empty => exact absurd rfl h

lemma placeOf_lt_placeOf {text rest rest' : List Char} (h : rest <:+ text)
    (hlt : rest'.length < rest.length) : placeOf text rest < placeOf text rest' := by
  have hle := h.length_le
  simp only [placeOf]
  omega

/-- **The two settings differ in tokens only.**  A selector that is read where numbers are wanted is
also read where texts are allowed: the same tree is derived, and the predicates are the same but for
numbers, each of which becomes the token as written.  An error where numbers are wanted is an error
where texts are allowed, or it stands at the start of a token that is no boolean, which is no number
or not taken by its operator.  And whatever is no selector where texts are allowed is none where
numbers are wanted, for the same reason or for one further in front. -/
theorem Selector.parse_settings (text : String) :
    (∀ p, Selector.parse ⟨false⟩ text = .ok p →
      ∃ tree q, Derives text.toList tree ∧ tree.Denotes ⟨false⟩ p ∧
        Selector.parse ⟨true⟩ text = .ok q ∧ tree.Denotes ⟨true⟩ q ∧ q.name = p.name ∧
        q.predicates.length = p.predicates.length ∧
        List.Forall₂ (fun clause pq => clause.Agrees pq.1 pq.2) tree.clauses
          (p.predicates.zip q.predicates)) ∧
      (∀ e, Selector.parse ⟨false⟩ text = .error e →
        Selector.parse ⟨true⟩ text = .error e ∨
          ∃ position, TokenAt text.toList position ∧
            ((∃ op operand, e.problem = .nonTextOperand position op operand) ∨
              ∃ symbol, e.problem = .unexpectedSymbol symbol position (some .attributeValue))) ∧
      ∀ f, Selector.parse ⟨true⟩ text = .error f →
        ∃ e, Selector.parse ⟨false⟩ text = .error e ∧
          (e = f ∨ ∃ i j, e.problem.position? = some i ∧ f.problem.position? = some j ∧ i < j) := by
  refine ⟨fun p hp => ?_, fun e he => ?_, fun e' he' => ?_⟩
  · obtain ⟨tree, q, hd, hp', hread, hrest⟩ :=
      Reading.exists_selector_agrees (Selector.parse_eq_ok_iff.1 hp)
    exact ⟨tree, q, hd, hp', Selector.parse_eq_ok_iff.2 hread, hrest⟩
  · obtain ⟨f, hf, rfl⟩ := Selector.parse_eq_error_iff.1 he
    rcases Reading.selector_settings hf with hsame | ⟨op, token, after, hvalue, hrefuses, -⟩
    · exact .inl (Selector.parse_eq_error_iff.2 ⟨f, hsame, rfl⟩)
    · have hsuffix := Reading.selector_error_isSuffix hf
      exact .inr ⟨_, hrefuses.tokenAt hsuffix hvalue, hrefuses.problemAt _⟩
  · obtain ⟨g, hg, rfl⟩ := Selector.parse_eq_error_iff.1 he'
    cases hread : Reading.selector ⟨false⟩ text.toList with
    | ok p =>
      obtain ⟨-, q, -, -, hq, -⟩ := Reading.exists_selector_agrees hread
      simp [hq] at hg
    | error f =>
      refine ⟨_, Selector.parse_eq_error_iff.2 ⟨f, hread, rfl⟩, ?_⟩
      rcases Reading.selector_settings hread with hsame | ⟨op, token, after, -, hrefuses, hbefore⟩
      · obtain rfl := Except.error.inj (hsame.symm.trans hg)
        exact .inl rfl
      · have hf : f.cause ≠ .empty := by
          rcases hrefuses.cause with hcause | ⟨v, hcause⟩ <;> simp [hcause]
        -- The failure at the token stands before any that the reading for texts comes to.
        have hplace := placeOf_lt_placeOf (Reading.selector_error_isSuffix hread) (hbefore g hg)
        exact .inr ⟨_, _, Reading.Failure.position?_problemAt hf _,
          Reading.Failure.position?_problemAt (Reading.error_ne_empty_of_error hread hf hg) _,
          hplace⟩

/-- A token that is no number is refused where numbers are wanted, and kept where texts are
allowed. -/
theorem Selector.parse_settings_token :
    Selector.parse ⟨false⟩ "ü[a*=x]" =
        .error ⟨"ü[a*=x]", .unexpectedSymbol 'x' 5 (some .attributeValue)⟩ ∧
      Selector.parse ⟨true⟩ "ü[a*=x]" =
        .ok ⟨"ü", [⟨["a"], by simp, .relates .contains "x", true⟩]⟩ ∧
      TokenAt "ü[a*=x]".toList 5 := by
  have hmore := Reading.moreSegments_of_no_dot (gap_skipBlanks "*=x]".toList) (by decide)
  have hclause : Reading.clause ⟨false⟩ "a*=x]".toList =
      .error ⟨"x]".toList, .unexpected (some .attributeValue)⟩ :=
    Reading.clause_eq_error_iff.2 (.comparison rfl hmore (by decide) rfl)
  have hname : Reading.run Reading.isNameChar (skipBlanks "ü[a*=x]".toList) =
      (['ü'], '[' :: "a*=x]".toList) := by decide
  have herror : Selector.parse ⟨false⟩ "ü[a*=x]" =
      .error ⟨"ü[a*=x]", .unexpectedSymbol 'x' 5 (some .attributeValue)⟩ :=
    (Selector.parse_of_clause_error hname hclause).trans (congrArg Except.error (by decide))
  have hok : Selector.parse ⟨true⟩ "ü[a*=x]" =
      .ok ⟨"ü", [⟨["a"], by simp, .relates .contains "x", true⟩]⟩ :=
    Selector.parse_eq_ok_iff.2 (Reading.selector_iff.2 ⟨"[a*=x]".toList, by decide,
      Reading.clauses_cons_iff.2 ⟨_, [], rfl, Reading.clause_iff.2 ⟨_, _, _, _, rfl, hmore, rfl,
        .inr ⟨by decide, rfl⟩⟩, Reading.clauses_nil_iff.2 rfl⟩, by simp⟩)
  obtain hsame | ⟨position, htoken, hproblem⟩ := (Selector.parse_settings "ü[a*=x]").2.1 _ herror
  · simp [hok] at hsame
  · obtain rfl : 5 = position := by simpa using hproblem
    exact ⟨herror, hok, htoken⟩

end ComponentQuery
