import ComponentQuery.Proofs.Selector.Location

/-!
# Text behind an error

The reader looks one character ahead and stops at the first problem, so that what stands behind a
problem is never looked at.  Only where the text ends too early may more text help: at an unexpected
end, in the flags of a regular expression, and in a token that reaches to the end.

A failure is settled if it is none of these (`Failure.Settled`).  For each function of the reader
`f_append_of_error` says that a settled failure stays if more text is added, and
`f_append_of_ok` that what has been read stays if something is left behind it.

The main result is `Selector.parse_append_of_error`.
-/

namespace ComponentQuery

open Grammar

namespace Reading

/-! ## Settled failures -/

/-- A failure with more text behind. -/
def Failure.append (f : Failure) (w : List Char) : Failure := ⟨f.rest ++ w, f.cause⟩

/-- A failure that does not come from where the text ends: something is left, it is no regular
expression that is refused, whose flags may go on, and no token up to the end. -/
structure Failure.Settled (f : Failure) : Prop where
  ne_nil : f.rest ≠ []
  regex : ∀ message, f.cause ≠ .invalidRegex message
  token : f.cause = .unexpected (some .attributeValue) → ∃ c ∈ f.rest, isTokenChar c = false

/-! ## What has been read -/

variable {cs rest : List Char}

lemma skipBlanks_append (h : skipBlanks cs ≠ []) (w : List Char) :
    skipBlanks (cs ++ w) = skipBlanks cs ++ w :=
  skipBlanks_eq_iff.2 (gap_append_right (gap_skipBlanks cs) h w).2

lemma head?_append_ne {c : Char} (h : rest.head? ≠ some c) (hne : rest ≠ []) (w : List Char) :
    (rest ++ w).head? ≠ some c := by
  rwa [List.head?_append_of_ne_nil _ hne]

lemma run_append_of_ne_nil {p : Char → Bool} {r : List Char} (h : run p cs = (r, rest))
    (hne : rest ≠ []) (w : List Char) : run p (cs ++ w) = (r, rest ++ w) := by
  obtain ⟨rfl, hrun⟩ := run_eq_iff.1 h
  rw [List.append_assoc]
  exact run_append_eq (isRun_append hrun hne w)

lemma quoted_append {mark : Char} (hm : QuotationMark mark) {text : List Char}
    (h : quoted mark cs = .ok (text, rest)) (w : List Char) :
    quoted mark (cs ++ w) = .ok (text, rest ++ w) := by
  have hmark := ne_backslash_of_quotationMark hm
  obtain ⟨body, rfl, hs⟩ := (quoted_eq_ok_iff hmark).1 h
  exact (quoted_eq_ok_iff hmark).2 ⟨body, by simp, hs⟩

lemma partText_append {text : List Char} (h : partText cs = .ok (text, rest)) (hne : rest ≠ [])
    (w : List Char) : partText (cs ++ w) = .ok (text, rest ++ w) := by
  revert h
  fun_cases partText cs with
  | case1 => exact fun h => quoted_append .double h w
  | case2 => exact fun h => quoted_append .single h w
  | case3 _ hdouble hsingle =>
    intro h
    have hread := Except.ok.inj h
    have hrun := run_append_of_ne_nil hread hne w
    cases cs with
    | nil =>
      obtain ⟨-, rfl⟩ := Prod.mk.inj hread
      exact absurd rfl hne
    | cons c cs =>
      -- The first character is the same, so that still no mark begins the part.
      rw [partText_of_ne_mark, hrun]
      intro d hd hmark
      obtain rfl : c = d := Option.some.inj hd
      cases hmark with
      | double => exact hdouble cs rfl
      | single => exact hsingle cs rfl

lemma segment_append_of_ok {s : String} (h : segment cs = .ok (s, rest)) (hne : rest ≠ [])
    (w : List Char) : segment (cs ++ w) = .ok (s, rest ++ w) := by
  obtain ⟨cs', part, hg, hp, rfl⟩ := segment_eq_ok_iff.1 h
  obtain ⟨hcs', hp'⟩ := derivesPart_append hp hne w
  exact segment_eq_ok_iff.2 ⟨_, part, (gap_append_right hg hcs' w).2, hp', rfl⟩

lemma moreSegments_append_of_ok {path : List String} (h : moreSegments cs = .ok (path, rest))
    (hne : rest ≠ []) (w : List Char) : moreSegments (cs ++ w) = .ok (path, rest ++ w) := by
  obtain ⟨more, hmore, hhead, rfl⟩ := moreSegments_eq_ok_iff.1 h
  have hmore' := (derivesMore_append hmore hne w).2
  exact moreSegments_eq_ok_iff.2 ⟨more, hmore', head?_append_ne hhead hne w, rfl⟩

lemma operator_append_of_ok {op : Operator} (h : operator cs = .ok (op, rest)) (w : List Char) :
    operator (cs ++ w) = .ok (op, rest ++ w) := by
  obtain ⟨cs', hg, hop⟩ := operator_eq_ok_iff.1 h
  obtain ⟨hcs', hop'⟩ := derivesOperator_append hop w
  exact operator_eq_ok_iff.2 ⟨_, (gap_append_right hg hcs' w).2, hop'⟩

lemma caseLetter_append {caseSensitive : Bool} (h : caseLetter cs = (caseSensitive, rest))
    (hne : rest ≠ []) (w : List Char) : caseLetter (cs ++ w) = (caseSensitive, rest ++ w) := by
  by_cases hblank : skipBlanks cs = []
  · -- Where only blanks are left, no letter is read, and nothing is left.
    have hread : caseLetter cs = (true, []) := by simp only [caseLetter, hblank]
    obtain ⟨-, rfl⟩ := Prod.mk.inj (hread.symm.trans h)
    exact absurd rfl hne
  · obtain ⟨c, cs', hcs⟩ := List.exists_cons_of_ne_nil hblank
    unfold caseLetter at h ⊢
    rw [skipBlanks_append hblank, hcs]
    rw [hcs] at h
    split at h
    case h_1 hletter | h_2 hletter | h_3 hletter | h_4 hletter =>
      obtain ⟨rfl, rfl⟩ := Prod.mk.inj h
      obtain ⟨rfl, rfl⟩ := List.cons.inj hletter
      rfl
    case h_5 =>
      -- The first character is the same, so that still no letter is read.
      obtain ⟨rfl, rfl⟩ := Prod.mk.inj h
      split <;> simp_all

lemma quotedValue_append {mark : Char} (hm : QuotationMark mark) {v : Operand × Bool}
    (h : quotedValue mark cs = .ok (v, rest)) (hne : rest ≠ []) (w : List Char) :
    quotedValue mark (cs ++ w) = .ok (v, rest ++ w) := by
  cases hq : quoted mark cs with
  | error f => simp [quotedValue, hq] at h
  | ok read =>
    obtain ⟨text, left⟩ := read
    obtain ⟨⟨caseSensitive, left'⟩, hletter⟩ : ∃ read, caseLetter left = read := ⟨_, rfl⟩
    simp only [quotedValue, hq, hletter] at h
    obtain ⟨rfl, rfl⟩ := Prod.mk.inj (Except.ok.inj h)
    simp only [quotedValue, quoted_append hm hq w, caseLetter_append hletter hne w]

lemma regexLiteral_append_of_ok {r : Regex} (h : regexLiteral cs = .ok (r, rest))
    (hne : rest ≠ []) (w : List Char) : regexLiteral (cs ++ w) = .ok (r, rest ++ w) := by
  obtain ⟨source, flags, rfl, hs, hf, hcompile⟩ := regexLiteral_eq_ok_iff.1 h
  exact regexLiteral_eq_ok_iff.2
    ⟨source, flags, by simp, hs, isRun_append hf hne w, hcompile⟩

lemma unquotedValue_append_of_ok {config : Config} {v : Operand}
    (h : unquotedValue config cs = .ok (v, rest)) (hne : rest ≠ []) (w : List Char) :
    unquotedValue config (cs ++ w) = .ok (v, rest ++ w) := by
  obtain ⟨token, rfl, hrun, hv⟩ := unquotedValue_eq_ok_iff.1 h
  exact unquotedValue_eq_ok_iff.2
    ⟨token, List.append_assoc .., isRun_append hrun hne w, hv⟩

lemma startsToken_append (h : StartsToken cs) (hne : cs ≠ []) (w : List Char) :
    StartsToken (cs ++ w) := by
  unfold StartsToken
  rw [List.head?_append_of_ne_nil _ hne]
  exact h

lemma value_append_of_ok {config : Config} {op : Operator} {v : Operand × Bool}
    (h : value config op cs = .ok (v, rest)) (hne : rest ≠ []) (w : List Char) :
    value config op (cs ++ w) = .ok (v, rest ++ w) := by
  have hcs : cs ≠ [] := fun hnil => hne (List.suffix_nil.1 (hnil ▸ value_isSuffix h))
  rcases value_cases cs with ⟨cs, rfl⟩ | ⟨mark, cs, rfl, hm⟩ | hstart
  · by_cases hop : op = .equals
    · simp only [value, if_pos hop, List.cons_append] at h ⊢
      cases hr : regexLiteral cs with
      | error f => simp [hr] at h
      | ok read =>
        simp only [hr] at h
        obtain ⟨rfl, rfl⟩ := Prod.mk.inj (Except.ok.inj h)
        simp only [regexLiteral_append_of_ok hr hne w]
    · simp [value, hop] at h
  · rw [value_mark hm] at h
    rw [List.cons_append, value_mark hm]
    exact quotedValue_append hm h hne w
  · rw [value_of_startsToken hstart] at h
    rw [value_of_startsToken (startsToken_append hstart hcs w)]
    cases hu : unquotedValue config cs with
    | error f => simp [hu] at h
    | ok read =>
      simp only [hu] at h
      obtain ⟨rfl, rfl⟩ := Prod.mk.inj (Except.ok.inj h)
      simp only [unquotedValue_append_of_ok hu hne w]

/-! ## Failures -/

variable {f : Failure}

/-- Where a settled failure stands behind a piece, something is left behind that piece. -/
lemma Failure.Settled.ne_nil_of_isSuffix (hf : f.Settled) (h : f.rest <:+ cs) : cs ≠ [] := by
  rintro rfl
  exact hf.ne_nil (List.suffix_nil.1 h)

lemma segment_append_of_error (h : segment cs = .error f) (hf : f.Settled) (w : List Char) :
    segment (cs ++ w) = .error (f.append w) := by
  have hread : ∀ cs, segment cs = partOfText (partText (skipBlanks cs)) := fun _ => rfl
  cases segment_eq_error h with
  | unclosed => exact absurd rfl hf.ne_nil
  | empty hp =>
    have hblank := hf.ne_nil_of_isSuffix (partText_isSuffix hp)
    rw [hread, skipBlanks_append hblank, partText_append hp hf.ne_nil w]
    rfl

lemma moreSegments_append_of_error (h : moreSegments cs = .error f) (hf : f.Settled)
    (w : List Char) : moreSegments (cs ++ w) = .error (f.append w) := by
  have hdots : ∀ {cs left : List Char}, skipBlanks cs = '.' :: left →
      skipBlanks (cs ++ w) = '.' :: (left ++ w) := by
    intro cs left hdot
    have hblank : skipBlanks cs ≠ [] := by simp [hdot]
    rw [skipBlanks_append hblank, hdot, List.cons_append]
  have hfails := moreSegments_eq_error_iff.1 h
  clear h
  refine moreSegments_eq_error_iff.2 ?_
  induction hfails with
  | part hdot hs => exact .part (hdots hdot) (segment_append_of_error hs hf w)
  | later hdot hs hlater ih =>
    have hsuffix := moreSegments_error_isSuffix (moreSegments_eq_error_iff.2 hlater)
    have hs' := segment_append_of_ok hs (hf.ne_nil_of_isSuffix hsuffix) w
    exact .later (hdots hdot) hs' (ih hf)

lemma operator_append_of_error (h : operator cs = .error f) (hf : f.Settled) (w : List Char) :
    operator (cs ++ w) = .error (f.append w) := by
  refine operator_eq_error_iff.2 ?_
  cases operator_eq_error_iff.1 h with
  | sign hsign =>
    have hblank := skipBlanks_append hf.ne_nil w
    have hsign' : ∀ c ∈ (skipBlanks (cs ++ w)).head?, c ≠ '=' ∧ TextRelation.ofSign? c = none := by
      rw [hblank, List.head?_append_of_ne_nil _ hf.ne_nil]
      exact hsign
    have hfails := OperatorFails.sign hsign'
    rwa [hblank] at hfails
  | @equality r rest hcs hrest =>
    have hblank : skipBlanks cs ≠ [] := by simp [hcs]
    have hcs' : skipBlanks (cs ++ w) = r.sign :: (rest ++ w) := by
      rw [skipBlanks_append hblank, hcs, List.cons_append]
    exact .equality hcs' (head?_append_ne hrest hf.ne_nil w)

/-- A token that ends inside of a text is the same with more behind. -/
lemma run_append_of_exists {p : Char → Bool} (h : ∃ c ∈ cs, p c = false) (w : List Char) :
    (run p (cs ++ w)).1 = (run p cs).1 := by
  obtain ⟨r, rest, rfl, hrun, hread⟩ := exists_run p cs
  have hne : rest ≠ [] := by
    rintro rfl
    obtain ⟨c, hc, hcp⟩ := h
    rw [List.append_nil] at hc
    simp [hrun.all c hc] at hcp
  rw [run_append_of_ne_nil hread hne w, hread]

lemma value_append_of_error {config : Config} {op : Operator} (h : value config op cs = .error f)
    (hf : f.Settled) (w : List Char) : value config op (cs ++ w) = .error (f.append w) := by
  cases value_eq_error h with
  | regexOperator hop => simp only [value, if_neg hop, List.cons_append]; rfl
  | unendingRegex => exact absurd rfl hf.ne_nil
  | invalidRegex message => exact absurd rfl (hf.regex message)
  | unclosed => exact absurd rfl hf.ne_nil
  | token hstart htoken =>
    have hread : tokenOperand? config (run isTokenChar (cs ++ w)).1 = none := by
      rw [run_append_of_exists (hf.token rfl) w, htoken]
    rw [value_of_startsToken (startsToken_append hstart hf.ne_nil w)]
    unfold unquotedValue
    simp only [hread]
    rfl

lemma comparison_append_of_error {config : Config} (h : comparison config cs = .error f)
    (hf : f.Settled) (w : List Char) : comparison config (cs ++ w) = .error (f.append w) := by
  refine comparison_eq_error_iff.2 ?_
  cases comparison_eq_error_iff.1 h with
  | operator ho => exact .operator (operator_append_of_error ho hf w)
  | @value op left _ ho hv =>
    have hblank := skipBlanks_append (hf.ne_nil_of_isSuffix (value_error_isSuffix hv)) w
    refine .value (operator_append_of_ok ho w) ?_
    rw [hblank]
    exact value_append_of_error hv hf w
  | @bracket op left left' v ho hv hopen =>
    have hleft' := hf.ne_nil_of_isSuffix (skipBlanks_isSuffix left')
    have hblank := skipBlanks_append
      (hf.ne_nil_of_isSuffix ((skipBlanks_isSuffix left').trans (value_isSuffix hv))) w
    have hblank' := skipBlanks_append hf.ne_nil w
    have hv' := value_append_of_ok hv hleft' w
    have hopen' := head?_append_ne hopen hf.ne_nil w
    rw [← hblank] at hv'
    rw [← hblank'] at hopen'
    have hfails := ComparisonFails.bracket (operator_append_of_ok ho w) hv' hopen'
    rwa [hblank'] at hfails
  | @operand op left left' rest v ho hv hclose hmakes =>
    have hblank' : skipBlanks left' ≠ [] := by simp [hclose]
    have hleft' : left' ≠ [] := by
      rintro rfl
      simp [skipBlanks] at hclose
    have hv' := value_append_of_ok hv hleft' w
    have hclose' : skipBlanks (left' ++ w) = ']' :: (rest ++ w) := by
      rw [skipBlanks_append hblank', hclose, List.cons_append]
    have hblank := skipBlanks_append hf.ne_nil w
    rw [← hblank] at hv'
    have hfails := ComparisonFails.operand (operator_append_of_ok ho w) hv' hclose' hmakes
    rwa [hblank] at hfails

lemma clause_append_of_error {config : Config} (h : clause config cs = .error f) (hf : f.Settled)
    (w : List Char) : clause config (cs ++ w) = .error (f.append w) := by
  refine clause_eq_error_iff.2 ?_
  cases clause_eq_error_iff.1 h with
  | first hs => exact .first (segment_append_of_error hs hf w)
  | more hs hm =>
    have hleft := hf.ne_nil_of_isSuffix (moreSegments_error_isSuffix hm)
    exact .more (segment_append_of_ok hs hleft w) (moreSegments_append_of_error hm hf w)
  | @comparison s path left left' _ hs hm hopen hc =>
    have hblank := hf.ne_nil_of_isSuffix (comparison_error_isSuffix hc)
    have hleft' := hf.ne_nil_of_isSuffix
      ((comparison_error_isSuffix hc).trans (skipBlanks_isSuffix left'))
    have hleft := hf.ne_nil_of_isSuffix
      (((comparison_error_isSuffix hc).trans (skipBlanks_isSuffix left')).trans
        (moreSegments_isSuffix hm))
    have hopen' := head?_append_ne hopen hblank w
    have hc' := comparison_append_of_error hc hf w
    rw [← skipBlanks_append hblank] at hopen' hc'
    exact .comparison (segment_append_of_ok hs hleft w) (moreSegments_append_of_ok hm hleft' w)
      hopen' hc'

/-! ## Clauses -/

lemma derivesLeading_append {written : List Clause} (h : DerivesLeading cs written rest)
    (hne : rest ≠ []) (w : List Char) :
    cs ≠ [] ∧ DerivesLeading (cs ++ w) written (rest ++ w) :=
  (local_leading written).append h hne w

/-- To read clauses with more behind is to read the leading clauses, and then what is left of them
with more behind. -/
lemma clauses_append {config : Config} {cs' : List Char} {written : List Clause}
    {ps : List Predicate} (hg : Gap cs cs') (hd : DerivesLeading cs' written rest)
    (hall : List.Forall₂ (Clause.Denotes config) written ps) (hne : rest ≠ []) (w : List Char) :
    clauses config (cs ++ w) = withLeading ps (clauses config (rest ++ w)) := by
  obtain ⟨hcs', hd'⟩ := derivesLeading_append hd hne w
  rw [clauses_of_gap (gap_append_right hg hcs' w).2, clauses_of_derivesLeading hd' hall]

lemma clauses_append_of_ok {config : Config} {ps : List Predicate}
    (h : clauses config cs = .ok (ps, rest)) (hne : rest ≠ []) (w : List Char) :
    clauses config (cs ++ w) = .ok (ps, rest ++ w) := by
  obtain ⟨cs', written, hg, hd, hall, hself, hopen⟩ := clauses_eq_ok h
  have hself' := (gap_append_right hself hne w).2
  have hopen' := head?_append_ne hopen hne w
  rw [clauses_append hg hd hall hne w, clauses_of_no_bracket hself' hopen']
  simp [withLeading]

lemma clauses_append_of_error {config : Config} (h : clauses config cs = .error f)
    (hf : f.Settled) (w : List Char) : clauses config (cs ++ w) = .error (f.append w) := by
  obtain ⟨cs', written, ps, left, hg, hd, hall, hc⟩ := clauses_eq_error h
  have hopen : skipBlanks ('[' :: left ++ w) = '[' :: (left ++ w) := skipBlanks_cons (by decide) _
  have hc' := clause_append_of_error hc hf w
  rw [clauses_append hg hd hall (List.cons_ne_nil _ _) w, clauses_of_clause_error hopen hc']
  rfl

theorem selector_append_of_error {config : Config} (h : selector config cs = .error f)
    (hf : f.Settled) (w : List Char) : selector config (cs ++ w) = .error (f.append w) := by
  have hname' : ∀ {name left : List Char}, run isNameChar (skipBlanks cs) = (name, left) →
      left ≠ [] → run isNameChar (skipBlanks (cs ++ w)) = (name, left ++ w) := by
    intro name left hname hleft
    have hsuffix := run_isSuffix isNameChar (skipBlanks cs)
    rw [hname] at hsuffix
    have hblank : skipBlanks cs ≠ [] :=
      fun hnil => hleft (List.suffix_nil.1 (hnil ▸ hsuffix))
    rw [skipBlanks_append hblank]
    exact run_append_of_ne_nil hname hleft w
  cases selector_eq_error h with
  | @clauses _ left _ hname hc =>
    have hsuffix := left_clauses_isSuffix config left
    rw [hc] at hsuffix
    have hleft := hf.ne_nil_of_isSuffix hsuffix
    exact selector_of_clauses_error (hname' hname hleft) (clauses_append_of_error hc hf w)
  | @behind _ left rest c _ hname hc =>
    have hsuffix := left_clauses_isSuffix config left
    rw [hc] at hsuffix
    have hleft := hf.ne_nil_of_isSuffix hsuffix
    exact selector_of_behind (hname' hname hleft) (clauses_append_of_ok hc (by simp) w)
  | empty => exact absurd rfl hf.ne_nil

/-- A selector that fails at a character, or at a value that its operator does not take, fails for
good unless its last character may be one of a token. -/
lemma settled_of_selector_error {config : Config} (h : selector config cs = .error f)
    (hcode : (f.problemAt (placeOf cs f.rest)).code ∈
      [Code.unexpectedSymbol, .regexOperator, .nonTextOperand])
    (hlast : ∀ c ∈ cs.getLast?, isTokenChar c = false) : f.Settled := by
  have hne : f.rest ≠ [] := by
    rcases selector_error_cases h with ⟨stage, hstage⟩ | ⟨op, -, hrefuses⟩ | ⟨hempty, -⟩
    · intro hnil
      simp [Failure.problemAt, hstage, hnil, Problem.code] at hcode
    · cases hrefuses with
      | regexOperator => exact List.cons_ne_nil _ _
      | invalidRegex => exact List.cons_ne_nil _ _
      | nonTextOperand _ _ hne => exact hne
    · simp [Failure.problemAt, hempty, Problem.code] at hcode
  refine ⟨hne, fun message hcause => ?_, fun _ => ?_⟩
  · simp [Failure.problemAt, hcause, Problem.code] at hcode
  · obtain ⟨before, hcs⟩ := selector_error_isSuffix h
    have hmem : f.rest.getLast hne ∈ cs.getLast? := by
      rw [← hcs, List.getLast?_append_of_ne_nil before hne, List.getLast?_eq_some_getLast hne]
      rfl
    exact ⟨_, List.getLast_mem hne, hlast _ hmem⟩

/-! ## Places -/

lemma placeOf_append_right (cs rest w : List Char) :
    placeOf (cs ++ w) (rest ++ w) = placeOf cs rest := by
  simp only [placeOf, List.length_append]
  omega

lemma Failure.problemAt_append (hne : f.rest ≠ []) (w : List Char) (position : Nat) :
    (f.append w).problemAt position = f.problemAt position := by
  obtain ⟨rest, cause⟩ := f
  obtain ⟨c, rest, rfl⟩ := List.exists_cons_of_ne_nil hne
  cases cause <;> rfl

end Reading

/-- **The first error is final.**  If a text is no selector since some character cannot stand where
it does, or since an operator does not take its value, then it is none for the same reason whatever
follows; unless its last character may be one of a token, which what follows may continue. -/
theorem Selector.parse_append_of_error (config : Config) (text more : String) (e : SelectorError)
    (h : Selector.parse config text = .error e)
    (hcode : e.problem.code ∈ [Code.unexpectedSymbol, .regexOperator, .nonTextOperand])
    (hlast : ∀ c ∈ text.toList.getLast?, Reading.isTokenChar c = false) :
    Selector.parse config (text ++ more) = .error ⟨text ++ more, e.problem⟩ := by
  obtain ⟨f, hf, rfl⟩ := Selector.parse_eq_error_iff.1 h
  have hsettled := Reading.settled_of_selector_error hf hcode hlast
  have hread := Reading.selector_append_of_error hf hsettled more.toList
  have hproblem := Reading.Failure.problemAt_append hsettled.ne_nil more.toList
    (placeOf text.toList f.rest)
  rw [← String.toList_append] at hread
  refine Selector.parse_eq_error_iff.2 ⟨_, hread, ?_⟩
  rw [String.toList_append, Reading.Failure.append, Reading.placeOf_append_right]
  exact congrArg _ hproblem.symm

/-- A regular expression is refused at its first slash, and the bracket behind it is not needed. -/
theorem Selector.parse_append_of_error_regex :
    (Selector.parse ⟨false⟩ "ü[a^=/b/" =
        .error ⟨"ü[a^=/b/", .regexOperator 5 (.relates .startsWith)⟩ ∧
      ∀ c ∈ "ü[a^=/b/".toList.getLast?, Reading.isTokenChar c = false) ∧
    Selector.parse ⟨false⟩ ("ü[a^=/b/" ++ "][!") =
      .error ⟨"ü[a^=/b/][!", .regexOperator 5 (.relates .startsWith)⟩ := by
  have hmore := Reading.moreSegments_of_no_dot (gap_skipBlanks "^=/b/".toList) (by decide)
  have hclause : Reading.clause ⟨false⟩ "a^=/b/".toList =
      .error ⟨"/b/".toList, .regexOperator (.relates .startsWith)⟩ :=
    Reading.clause_eq_error_iff.2 (.comparison rfl hmore (by decide) rfl)
  have hname : Reading.run Reading.isNameChar (skipBlanks "ü[a^=/b/".toList) =
      (['ü'], '[' :: "a^=/b/".toList) := by decide
  have he : Selector.parse ⟨false⟩ "ü[a^=/b/" =
      .error ⟨"ü[a^=/b/", .regexOperator 5 (.relates .startsWith)⟩ :=
    (Selector.parse_of_clause_error hname hclause).trans (congrArg Except.error (by decide))
  have hlast : ∀ c ∈ "ü[a^=/b/".toList.getLast?, Reading.isTokenChar c = false := by
    intro c hc
    obtain rfl : '/' = c := Option.some.inj hc
    rfl
  exact ⟨⟨he, hlast⟩,
    Selector.parse_append_of_error ⟨false⟩ "ü[a^=/b/" "][!" _ he (by decide) hlast⟩

end ComponentQuery
