import ComponentQuery.Proofs.Selector.BareTokens
import ComponentQuery.Proofs.Selector.Failure

/-!
# Clauses one after another

Reading clauses goes through a text clause by clause, and no clause knows of those before it.  So a
text can be cut behind any clause.  `DerivesLeading` says what clauses a text leads with, and what
is left behind them.  `clauses_of_derivesLeading` is the step: to read a text is to read its leading
clauses and then what is left.  `exists_derivesLeading` is the run: every text leads with clauses up
to a place at which no bracket follows (`clauses_eq_ok`), or at which the clause behind a bracket
fails (`clauses_eq_error`).

From this it follows how a whole selector fails (`selector_eq_error`), and the main result
`Selector.parse_append`: clauses written behind a selector are added to it, and if they are not
clauses, then the error is theirs, moved by the length of the selector.
-/

namespace ComponentQuery

open Grammar

namespace Grammar

/-! ## Leading clauses -/

/-- Clauses with a gap behind each, and then `rest`. -/
inductive DerivesLeading : List Char → List Clause → List Char → Prop where
  | nil (rest : List Char) : DerivesLeading rest [] rest
  | cons {cs₁ cs₂ cs₃ rest : List Char} {clause : Clause} {clauses : List Clause}
      (h₁ : DerivesClause cs₁ clause cs₂) (h₂ : Gap cs₂ cs₃)
      (h₃ : DerivesLeading cs₃ clauses rest) : DerivesLeading cs₁ (clause :: clauses) rest

lemma local_leading (clauses : List Clause) : Local (DerivesLeading · clauses ·) := by
  induction clauses with
  | nil =>
    rintro _ rest ⟨⟩
    exact ⟨[], rfl, fun w _ => .nil w⟩
  | cons clause clauses ih =>
    refine ((closed_clause clause).local.comp (local_gap.comp ih)).of_iff fun cs rest => ⟨?_, ?_⟩
    · intro h
      cases h with
      | cons h₁ h₂ h₃ => exact ⟨_, h₁, _, h₂, h₃⟩
    · rintro ⟨_, h₁, _, h₂, h₃⟩
      exact .cons h₁ h₂ h₃

/-- A run is not continued by a character of another kind, wherever it ends. -/
lemma isRun_append_cons {p : Char → Bool} {run rest : List Char} (h : IsRun p run rest) {c : Char}
    (hc : p c = false) (w : List Char) : IsRun p run (rest ++ c :: w) := by
  cases rest with
  | nil => exact IsRun.before_cons h.all hc
  | cons d rest => exact IsRun.before_cons h.all (h.maximal d rfl)

lemma gap_append_cons {cs rest : List Char} (h : Gap cs rest) {c : Char} (hc : isBlank c = false)
    (w : List Char) : Gap (cs ++ c :: w) (rest ++ c :: w) := by
  obtain ⟨hrun⟩ := h
  rw [List.append_assoc]
  exact .intro (isRun_append_cons hrun hc w)

/-- The clauses of a selector lead a text that goes on with another bracket. -/
lemma derivesLeading_of_derivesClauses {cs : List Char} {clauses : List Clause}
    (h : DerivesClauses cs clauses) (w : List Char) :
    DerivesLeading (cs ++ '[' :: w) clauses ('[' :: w) := by
  induction h with
  | nil => exact .nil _
  | cons h₁ h₂ _ ih =>
    have hclause := (derivesClause_append h₁ ('[' :: w)).2
    have hgap := gap_append_cons h₂ (by decide : isBlank '[' = false) w
    exact .cons hclause hgap ih

end Grammar

namespace Reading

/-! ## Reading leading clauses -/

/-- What reading gives if the predicates of leading clauses stand before what is read. -/
def withLeading (ps : List Predicate) : Reading (List Predicate) → Reading (List Predicate)
  | .error f => .error f
  | .ok (qs, rest) => .ok (ps ++ qs, rest)

@[simp] lemma withLeading_nil (r : Reading (List Predicate)) : withLeading [] r = r := by
  cases r <;> rfl

@[simp] lemma withLeading_append (ps qs : List Predicate) (r : Reading (List Predicate)) :
    withLeading (ps ++ qs) r = withLeading ps (withLeading qs r) := by
  cases r <;> simp [withLeading]

/-- One clause is read, and then the others. -/
lemma clauses_of_clause {config : Config} {cs left left' : List Char} {p : Predicate}
    (hopen : skipBlanks cs = '[' :: left) (hc : clause config left = .ok (p, left')) :
    clauses config cs = withLeading [p] (clauses config left') := by
  rw [clauses_eq, hopen]
  simp only [hc]
  cases clauses config left' <;> rfl

lemma clauses_of_clause_error {config : Config} {cs left : List Char} {f : Failure}
    (hopen : skipBlanks cs = '[' :: left) (hc : clause config left = .error f) :
    clauses config cs = .error f := by
  rw [clauses_eq, hopen]
  simp only [hc]

lemma clauses_of_no_bracket {config : Config} {cs rest : List Char} (hg : Gap cs rest)
    (h : rest.head? ≠ some '[') : clauses config cs = .ok ([], rest) := by
  rw [clauses_eq, skipBlanks_eq_iff.2 hg]
  split
  case h_1 => simp at h
  case h_2 => rfl

lemma clauses_of_gap {config : Config} {cs cs' : List Char} (h : Gap cs cs') :
    clauses config cs = clauses config cs' := by
  have hself := gap_self h.head_not_blank
  rw [clauses_eq config cs, clauses_eq config cs', skipBlanks_eq_iff.2 h, skipBlanks_eq_iff.2 hself]

/-- To read a text is to read the clauses that it leads with, and then what is left. -/
lemma clauses_of_derivesLeading {config : Config} {cs rest : List Char} {written : List Clause}
    {ps : List Predicate} (h : DerivesLeading cs written rest)
    (hall : List.Forall₂ (Clause.Denotes config) written ps) :
    clauses config cs = withLeading ps (clauses config rest) := by
  induction h generalizing ps with
  | nil =>
    obtain rfl := List.forall₂_nil_left_iff.1 hall
    simp
  | @cons _ cs₂ cs₃ rest _ _ h₁ h₂ _ ih =>
    obtain ⟨p, ps, hp, hps, rfl⟩ := List.forall₂_cons_left_iff.1 hall
    obtain ⟨left, rfl⟩ := exists_cons_of_derivesClause h₁
    have hopen : skipBlanks ('[' :: left) = '[' :: left := skipBlanks_cons (by decide) left
    calc clauses config ('[' :: left)
        = withLeading [p] (clauses config cs₂) :=
          clauses_of_clause hopen (clause_eq_ok_iff.2 ⟨_, h₁, hp⟩)
      _ = withLeading [p] (clauses config cs₃) := by rw [clauses_of_gap h₂]
      _ = withLeading [p] (withLeading ps (clauses config rest)) := by rw [ih hps]
      _ = withLeading (p :: ps) (clauses config rest) := (withLeading_append [p] ps _).symm

/-- Where the reading of clauses comes to its end: no bracket follows, or the clause behind one
fails. -/
inductive ClausesEnd (config : Config) : List Char → Reading (List Predicate) → Prop where
  | noBracket {rest : List Char} (hg : Gap rest rest) (h : rest.head? ≠ some '[') :
      ClausesEnd config rest (.ok ([], rest))
  | clause {left : List Char} {f : Failure} (h : clause config left = .error f) :
      ClausesEnd config ('[' :: left) (.error f)

/-- Every text leads with clauses up to where reading them comes to its end. -/
lemma exists_derivesLeading (config : Config) (cs : List Char) :
    ∃ cs' written ps rest r, Gap cs cs' ∧ DerivesLeading cs' written rest ∧ rest <:+ cs ∧
      List.Forall₂ (Clause.Denotes config) written ps ∧ ClausesEnd config rest r ∧
      clauses config cs = withLeading ps r := by
  generalize hn : cs.length = n
  induction n using Nat.strong_induction_on generalizing cs with
  | h n ih =>
    have hgap := gap_skipBlanks cs
    have hsuffix := skipBlanks_isSuffix cs
    by_cases hopen : (skipBlanks cs).head? = some '['
    · obtain ⟨left, hleft⟩ := List.head?_eq_some_iff.1 hopen
      rw [hleft] at hgap hsuffix
      cases hc : clause config left with
      | error f =>
        have hread := clauses_of_clause_error hleft hc
        exact ⟨_, [], [], _, _, hgap, .nil _, hsuffix, .nil, .clause hc, by simp [hread]⟩
      | ok pair =>
        -- A clause that is read is the first of the leading ones, and the rest lead what is left.
        obtain ⟨p, left'⟩ := pair
        have hlt := length_lt_after_clause hleft hc
        obtain ⟨cs', written, ps, rest, r, hg, hd, hs, hall, hend, hread⟩ :=
          ih _ (hn ▸ hlt) left' rfl
        obtain ⟨first, hfirst, hp⟩ := clause_eq_ok_iff.1 hc
        have hleft' : left' <:+ cs :=
          ((clause_isSuffix hc).1.trans (List.suffix_cons '[' left)).trans hsuffix
        refine ⟨_, first :: written, p :: ps, rest, r, hgap, .cons hfirst hg hd, hs.trans hleft',
          .cons hp hall, hend, ?_⟩
        calc clauses config cs
          _ = withLeading [p] (clauses config left') := clauses_of_clause hleft hc
          _ = withLeading [p] (withLeading ps r) := by rw [hread]
          _ = withLeading (p :: ps) r := (withLeading_append [p] ps r).symm
    · have hread : clauses config cs = .ok ([], skipBlanks cs) := clauses_of_no_bracket hgap hopen
      exact ⟨_, [], [], _, _, hgap, .nil _, hsuffix, .nil,
        .noBracket (gap_self hgap.head_not_blank) hopen, by simp [hread]⟩

lemma clauses_eq_ok {config : Config} {cs rest : List Char} {ps : List Predicate}
    (h : clauses config cs = .ok (ps, rest)) :
    ∃ cs' written, Gap cs cs' ∧ DerivesLeading cs' written rest ∧
      List.Forall₂ (Clause.Denotes config) written ps ∧ Gap rest rest ∧
      rest.head? ≠ some '[' := by
  obtain ⟨cs', written, qs, left, r, hg, hd, -, hall, hend, hread⟩ :=
    exists_derivesLeading config cs
  rw [hread] at h
  cases hend with
  | clause => simp [withLeading] at h
  | noBracket hgap hopen =>
    simp only [withLeading, List.append_nil, Except.ok.injEq, Prod.mk.injEq] at h
    obtain ⟨rfl, rfl⟩ := h
    exact ⟨cs', written, hg, hd, hall, hgap, hopen⟩

lemma clauses_eq_error {config : Config} {cs : List Char} {f : Failure}
    (h : clauses config cs = .error f) :
    ∃ cs' written ps left, Gap cs cs' ∧ DerivesLeading cs' written ('[' :: left) ∧
      List.Forall₂ (Clause.Denotes config) written ps ∧ clause config left = .error f := by
  obtain ⟨cs', written, ps, left, r, hg, hd, -, hall, hend, hread⟩ :=
    exists_derivesLeading config cs
  rw [hread] at h
  cases hend with
  | noBracket => simp [withLeading] at h
  | clause hclause =>
    obtain rfl := Except.error.inj h
    exact ⟨cs', written, ps, _, hg, hd, hall, hclause⟩

@[simp] lemma left_withLeading (ps : List Predicate) (r : Reading (List Predicate)) :
    left (withLeading ps r) = left r := by
  cases r <;> rfl

lemma left_clauses_isSuffix (config : Config) (cs : List Char) :
    left (clauses config cs) <:+ cs := by
  obtain ⟨-, -, ps, rest, r, -, -, hsuffix, -, hend, hread⟩ := exists_derivesLeading config cs
  rw [hread, left_withLeading]
  cases hend with
  | noBracket => exact hsuffix
  | clause hc => exact ((clause_error_isSuffix hc).trans (List.suffix_cons '[' _)).trans hsuffix

/-- Behind a bracket, reading clauses goes as far as reading the first, or further. -/
lemma left_clauses_bracket (config : Config) (w : List Char) :
    left (clauses config ('[' :: w)) <:+ left (clause config w) := by
  have hopen : skipBlanks ('[' :: w) = '[' :: w := skipBlanks_cons (by decide) w
  cases hc : clause config w with
  | error f =>
    rw [clauses_of_clause_error hopen hc]
    exact List.suffix_rfl
  | ok pair =>
    obtain ⟨p, rest⟩ := pair
    rw [clauses_of_clause hopen hc, left_withLeading]
    exact left_clauses_isSuffix config rest

/-! ## Selectors that fail -/

/-- How reading a selector fails: in its clauses, behind them, or since there is nothing. -/
inductive SelectorFails (config : Config) (cs : List Char) : Failure → Prop where
  | clauses {name left : List Char} {f : Failure}
      (hname : run isNameChar (skipBlanks cs) = (name, left))
      (h : clauses config left = .error f) : SelectorFails config cs f
  | behind {name left rest : List Char} {c : Char} {ps : List Predicate}
      (hname : run isNameChar (skipBlanks cs) = (name, left))
      (h : Reading.clauses config left = .ok (ps, c :: rest)) :
      SelectorFails config cs ⟨c :: rest, .unexpected none⟩
  | empty (h : skipBlanks cs = []) : SelectorFails config cs ⟨[], .empty⟩

lemma selector_eq_error {config : Config} {cs : List Char} {f : Failure}
    (h : selector config cs = .error f) : SelectorFails config cs f := by
  obtain ⟨name, left, hcs, hrun, hname⟩ := exists_run isNameChar (skipBlanks cs)
  unfold selector at h
  simp only [hname] at h
  split at h
  case h_1 hc =>
    obtain rfl := Except.error.inj h
    exact .clauses hname hc
  case h_2 hc =>
    obtain rfl := Except.error.inj h
    exact .behind hname hc
  case h_3 ps hc =>
    split at h
    case isFalse => simp at h
    case isTrue hempty =>
      obtain rfl := Except.error.inj h
      obtain ⟨rfl, rfl⟩ : name = [] ∧ ps = [] := by simpa using hempty
      -- Without a name and clauses, only blanks may be there.
      have hleft : skipBlanks left = [] := clauses_nil_iff.1 hc
      have hgap := gap_self (gap_skipBlanks cs).head_not_blank
      rw [hcs, List.nil_append] at hgap
      refine .empty ?_
      rw [hcs, List.nil_append, ← skipBlanks_eq_iff.2 hgap, hleft]

lemma selector_of_clauses_error {config : Config} {cs name left : List Char} {f : Failure}
    (hname : run isNameChar (skipBlanks cs) = (name, left))
    (h : clauses config left = .error f) : selector config cs = .error f := by
  simp only [selector, hname, h]

lemma selector_of_behind {config : Config} {cs name left rest : List Char} {c : Char}
    {ps : List Predicate} (hname : run isNameChar (skipBlanks cs) = (name, left))
    (h : clauses config left = .ok (ps, c :: rest)) :
    selector config cs = .error ⟨c :: rest, .unexpected none⟩ := by
  simp only [selector, hname, h]

lemma selector_of_blank {config : Config} {cs : List Char} (h : skipBlanks cs = []) :
    selector config cs = .error ⟨[], .empty⟩ := by
  have hclauses : clauses config [] = .ok ([], []) := clauses_nil_iff.2 rfl
  simp [selector, h, run, hclauses]

theorem selector_error_isSuffix {config : Config} {cs : List Char} {f : Failure}
    (h : selector config cs = .error f) : f.rest <:+ cs := by
  have hleft : ∀ {name left : List Char}, run isNameChar (skipBlanks cs) = (name, left) →
      left <:+ cs := by
    intro name left hname
    have hrun := run_isSuffix isNameChar (skipBlanks cs)
    rw [hname] at hrun
    exact hrun.trans (skipBlanks_isSuffix cs)
  cases selector_eq_error h with
  | @clauses _ start _ hname hc =>
    have hsuffix := left_clauses_isSuffix config start
    rw [hc] at hsuffix
    exact hsuffix.trans (hleft hname)
  | @behind _ start _ _ _ hname hc =>
    have hsuffix := left_clauses_isSuffix config start
    rw [hc] at hsuffix
    exact hsuffix.trans (hleft hname)
  | empty => exact List.nil_suffix

lemma clauses_error_ne_empty {config : Config} {cs : List Char} {f : Failure}
    (h : clauses config cs = .error f) : f.cause ≠ .empty := by
  obtain ⟨-, -, -, left, -, -, -, hc⟩ := clauses_eq_error h
  rcases clause_error_cases hc with ⟨stage, hstage⟩ | ⟨op, -, hrefuses⟩
  · simp [hstage]
  · cases hrefuses <;> simp

theorem selector_error_empty_iff {config : Config} {cs : List Char} :
    (∃ f, selector config cs = .error f ∧ f.cause = .empty) ↔ ∀ c ∈ cs, isBlank c = true := by
  have hblank : skipBlanks cs = [] ↔ ∀ c ∈ cs, isBlank c = true := List.dropWhile_eq_nil_iff
  rw [← hblank]
  constructor
  · rintro ⟨f, hf, hempty⟩
    cases selector_eq_error hf with
    | clauses _ hc => exact absurd hempty (clauses_error_ne_empty hc)
    | behind => simp at hempty
    | empty h => exact h
  · exact fun h => ⟨⟨[], .empty⟩, selector_of_blank h, rfl⟩

/-! ## Clauses behind a selector -/

/-- Behind a bracket at the front there is a clause, or reading fails. -/
lemma ne_nil_of_clauses_bracket {config : Config} {w rest : List Char} {ps : List Predicate}
    (h : clauses config ('[' :: w) = .ok (ps, rest)) : ps ≠ [] := by
  have hopen : skipBlanks ('[' :: w) = '[' :: w := skipBlanks_cons (by decide) w
  cases hc : clause config w with
  | error f =>
    rw [clauses_of_clause_error hopen hc] at h
    simp at h
  | ok pair =>
    obtain ⟨p, left⟩ := pair
    rw [clauses_of_clause hopen hc] at h
    cases hleft : clauses config left with
    | error f => simp [hleft, withLeading] at h
    | ok pair =>
      simp only [hleft, withLeading, Except.ok.injEq, Prod.mk.injEq] at h
      simp [← h.1]

lemma run_isNameChar_bracket (w : List Char) :
    run isNameChar (skipBlanks ('[' :: w)) = ([], '[' :: w) := by
  rw [skipBlanks_cons (by decide) w]
  have hrun : IsRun isNameChar [] ('[' :: w) := .before_cons (by simp) (by decide)
  exact run_append_eq hrun

/-- To read a selector with clauses behind it is to read those clauses, and to add the predicates to
the selector. -/
theorem selector_append {config : Config} {cs : List Char} {s : Selector}
    (h : selector config cs = .ok s) (w : List Char) :
    selector config (cs ++ '[' :: w) =
      (selector config ('[' :: w)).map fun t => ⟨s.name, s.predicates ++ t.predicates⟩ := by
  obtain ⟨⟨name, written⟩, hd, hname, hall⟩ := selector_eq_ok_iff.1 h
  cases hd with | @intro left left' _ _ hg hrun hg' hd hne =>
  -- The name and the clauses are the same with more behind them.
  have hname' : run isNameChar (skipBlanks (cs ++ '[' :: w)) = (name, left ++ '[' :: w) := by
    have hgap := gap_append_cons hg (by decide : isBlank '[' = false) w
    rw [skipBlanks_eq_iff.2 hgap, List.append_assoc]
    exact run_append_eq (isRun_append_cons hrun (by decide) w)
  have hclauses : clauses config (left ++ '[' :: w) =
      withLeading s.predicates (clauses config ('[' :: w)) := by
    rw [clauses_of_gap (gap_append_cons hg' (by decide) w)]
    exact clauses_of_derivesLeading (derivesLeading_of_derivesClauses hd w) hall
  have hs : String.ofList name = s.name := hname.symm
  unfold selector
  simp only [hname', hclauses, run_isNameChar_bracket]
  cases hw : clauses config ('[' :: w) with
  | error f => rfl
  | ok pair =>
    obtain ⟨qs, rest⟩ := pair
    have hqs := ne_nil_of_clauses_bracket hw
    cases rest with
    | cons c rest => rfl
    | nil => simp [withLeading, hqs, hs, Except.map]

end Reading

/-! ## Places -/

/-- A text is no selector if reading its characters fails, and the problem is that failure, placed
by what is left. -/
lemma Selector.parse_eq_error_iff {config : Config} {text : String} {e : SelectorError} :
    Selector.parse config text = .error e ↔
      ∃ f, Reading.selector config text.toList = .error f ∧
        e = ⟨text, f.problemAt (placeOf text.toList f.rest)⟩ := by
  unfold Selector.parse
  split
  case h_1 => simp_all
  case h_2 f hf =>
    simp only [Except.error.injEq, hf, exists_eq_left']
    exact eq_comm

lemma Selector.parse_of_clause_error {config : Config} {text : String} {name w : List Char}
    {f : Reading.Failure}
    (hname : Reading.run Reading.isNameChar (skipBlanks text.toList) = (name, '[' :: w))
    (h : Reading.clause config w = .error f) :
    Selector.parse config text = .error ⟨text, f.problemAt (placeOf text.toList f.rest)⟩ := by
  have hopen : skipBlanks ('[' :: w) = '[' :: w := skipBlanks_cons (by decide) w
  have hread := Reading.selector_of_clauses_error hname (Reading.clauses_of_clause_error hopen h)
  exact Selector.parse_eq_error_iff.2 ⟨f, hread, rfl⟩

/-- What stands before a text moves the places in it. -/
lemma placeOf_append {cs rest : List Char} (h : rest <:+ cs) (before : List Char) :
    placeOf (before ++ cs) rest = placeOf cs rest + before.length := by
  have hle := h.length_le
  simp only [placeOf, List.length_append]
  omega

/-- A problem that stands further behind in a text. -/
def Problem.shift (distance : Nat) : Problem → Problem
  | unexpectedEnd position stage => unexpectedEnd (position + distance) stage
  | unexpectedSymbol symbol position stage => unexpectedSymbol symbol (position + distance) stage
  | invalidRegex position message => invalidRegex (position + distance) message
  | regexOperator position operator => regexOperator (position + distance) operator
  | nonTextOperand position operator operand =>
    nonTextOperand (position + distance) operator operand
  | empty => empty

lemma Reading.Failure.problemAt_add (f : Reading.Failure) (position distance : Nat) :
    f.problemAt (position + distance) = (f.problemAt position).shift distance := by
  obtain ⟨rest, cause⟩ := f
  cases cause with
  | unexpected => cases rest <;> rfl
  | invalidRegex => rfl
  | regexOperator => rfl
  | nonTextOperand => rfl
  | empty => rfl

lemma Reading.Failure.problemAt_eq_empty_iff {f : Reading.Failure} {position : Nat} :
    f.problemAt position = .empty ↔ f.cause = .empty := by
  obtain ⟨rest, cause⟩ := f
  cases cause with
  | unexpected => cases rest <;> simp [problemAt]
  | invalidRegex => simp [problemAt]
  | regexOperator => simp [problemAt]
  | nonTextOperand => simp [problemAt]
  | empty => simp [problemAt]

/-- **Selectors are read clause by clause.**  Let a selector be read from a text, and let another
text begin with a bracket.  Then whatever is read from that text has no name, and its predicates are
added to the selector if the texts are joined; and if the other text is no selector, then the joined
text is none for the same reason, at the same place behind the selector. -/
theorem Selector.parse_append (config : Config) (text more : String) (s : Selector)
    (h : Selector.parse config text = .ok s) (hmore : more.toList.head? = some '[') :
    (∀ t, Selector.parse config more = .ok t →
      t.name = "" ∧
        Selector.parse config (text ++ more) = .ok ⟨s.name, s.predicates ++ t.predicates⟩) ∧
      ∀ e, Selector.parse config more = .error e →
        e.problem ≠ .empty ∧
          Selector.parse config (text ++ more) =
            .error ⟨text ++ more, e.problem.shift text.toList.length⟩ := by
  obtain ⟨w, hw⟩ := List.head?_eq_some_iff.1 hmore
  have hread := Reading.selector_append (Selector.parse_eq_ok_iff.1 h) w
  rw [← hw, ← String.toList_append] at hread
  constructor
  · intro t ht
    have ht' := Selector.parse_eq_ok_iff.1 ht
    refine ⟨?_, Selector.parse_eq_ok_iff.2 (by rw [hread, ht']; rfl)⟩
    obtain ⟨left, hname, -⟩ := Reading.selector_iff.1 ht'
    rw [hw, Reading.run_isNameChar_bracket] at hname
    simpa using (congrArg Prod.fst hname).symm
  · intro e he
    obtain ⟨f, hf, rfl⟩ := Selector.parse_eq_error_iff.1 he
    constructor
    · intro hempty
      have hcause := Reading.Failure.problemAt_eq_empty_iff.1 hempty
      have hblank := Reading.selector_error_empty_iff.1 ⟨f, hf, hcause⟩
      have hbracket := hblank '[' (by simp [hw])
      exact absurd hbracket (by decide)
    · refine Selector.parse_eq_error_iff.2 ⟨f, by rw [hread, hf]; rfl, ?_⟩
      have hplace := placeOf_append (Reading.selector_error_isSuffix hf) text.toList
      rw [String.toList_append, hplace, Reading.Failure.problemAt_add]

/-- The clause that is added is read behind another, and the sign that stops the reading of a clause
stops it behind another. -/
theorem Selector.parse_append_clause :
    (Selector.parse ⟨false⟩ "ü[b]" = .ok ⟨"ü", [⟨["b"], by simp, .truthy, true⟩]⟩ ∧
      "[c='d']".toList.head? = some '[' ∧ "[c!]".toList.head? = some '[') ∧
    Selector.parse ⟨false⟩ ("ü[b]" ++ "[c='d']") =
      .ok ⟨"ü", [⟨["b"], by simp, .truthy, true⟩,
        ⟨["c"], by simp, .equals (.text "d"), true⟩]⟩ ∧
    Selector.parse ⟨false⟩ ("ü[b]" ++ "[c!]") =
      .error ⟨"ü[b][c!]", .unexpectedSymbol '!' 6 (some .operator)⟩ := by
  have hb : Selector.parse ⟨false⟩ "ü[b]" = .ok ⟨"ü", [⟨["b"], by simp, .truthy, true⟩]⟩ := by
    have hclause : Reading.clause ⟨false⟩ "b]".toList =
        .ok (⟨["b"], by simp, .truthy, true⟩, []) := by
      have hmore := Reading.moreSegments_of_no_dot (gap_skipBlanks "]".toList) (by decide)
      exact Reading.clause_iff.2 ⟨_, _, _, _, rfl, hmore, rfl, .inl ⟨rfl, rfl, rfl⟩⟩
    exact Selector.parse_eq_ok_iff.2 (Reading.selector_iff.2 ⟨"[b]".toList, by decide,
      Reading.clauses_cons_iff.2 ⟨_, _, rfl, hclause, Reading.clauses_nil_iff.2 rfl⟩, by simp⟩)
  have hc : Selector.parse ⟨false⟩ "[c='d']" =
      .ok ⟨"", [⟨["c"], by simp, .equals (.text "d"), true⟩]⟩ := by
    have hclause : Reading.clause ⟨false⟩ "c='d']".toList =
        .ok (⟨["c"], by simp, .equals (.text "d"), true⟩, []) := by
      have hmore := Reading.moreSegments_of_no_dot (gap_skipBlanks "='d']".toList) (by decide)
      exact Reading.clause_iff.2 ⟨_, _, _, _, rfl, hmore, rfl, .inr ⟨by decide, rfl⟩⟩
    exact Selector.parse_eq_ok_iff.2 (Reading.selector_iff.2 ⟨"[c='d']".toList, by decide,
      Reading.clauses_cons_iff.2 ⟨_, _, rfl, hclause, Reading.clauses_nil_iff.2 rfl⟩, by simp⟩)
  have hbad : Selector.parse ⟨false⟩ "[c!]" =
      .error ⟨"[c!]", .unexpectedSymbol '!' 2 (some .operator)⟩ := by
    have hclause : Reading.clause ⟨false⟩ "c!]".toList =
        .error ⟨"!]".toList, .unexpected (some .operator)⟩ := by
      have hmore := Reading.moreSegments_of_no_dot (gap_skipBlanks "!]".toList) (by decide)
      exact Reading.clause_eq_error_iff.2 (.comparison rfl hmore (by decide) rfl)
    have hname : Reading.run Reading.isNameChar (skipBlanks "[c!]".toList) =
        ([], '[' :: "c!]".toList) := Reading.run_isNameChar_bracket _
    exact (Selector.parse_of_clause_error hname hclause).trans (congrArg Except.error (by decide))
  have hok := (Selector.parse_append ⟨false⟩ "ü[b]" "[c='d']" _ hb (by decide)).1 _ hc
  have herror := (Selector.parse_append ⟨false⟩ "ü[b]" "[c!]" _ hb (by decide)).2 _ hbad
  exact ⟨⟨hb, by decide, by decide⟩, hok.2, herror.2⟩

end ComponentQuery
