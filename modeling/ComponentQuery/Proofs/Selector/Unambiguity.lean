import ComponentQuery.Proofs.Selector.Exactness

/-!
# The grammar is unambiguous

The rules of the grammar let a piece end where it likes, and at one place several of them may apply.
Still a text has one tree only (`Grammar.Derives.tree_unique`).  For the pieces this means that
two derivations from one place give the same piece and leave the same rest, provided that what
follows is what may follow: no dot behind a path, and a closing bracket behind a value.

Most pieces are unique since the reader, which takes all that the grammar derives, can give only one
of them.  Values are the exception, as the reader gives what a value stands for and not how it is
written; there the first character tells which rule has been applied (`DerivesLiteral.kind`).
-/

namespace ComponentQuery.Grammar

open Reading

variable {cs mid mid' rest rest' : List Char}

/-! ## Paths -/

lemma not_isNameChar_of_quotationMark {mark : Char} (h : QuotationMark mark) :
    isNameChar mark = false := by
  cases h <;> decide

lemma ne_mark_cons_of_isRun {name : List Char} {mark : Char} (hm : QuotationMark mark)
    (hne : name ≠ []) (h : IsRun isNameChar name rest) (body : List Char) :
    name ++ rest ≠ mark :: body := by
  obtain ⟨c, name, rfl⟩ := List.exists_cons_of_ne_nil hne
  intro heq
  obtain rfl : c = mark := (List.cons.inj heq).1
  have hname := h.all c (List.mem_cons_self ..)
  rw [not_isNameChar_of_quotationMark hm] at hname
  simp at hname

lemma DerivesPart.unique {part part' : Part} (h : DerivesPart cs part rest)
    (h' : DerivesPart cs part' rest') : part = part' ∧ rest = rest' := by
  cases h with
  | @bare name rest hne hrun =>
    generalize hcs : name ++ rest = cs at h'
    cases h' with
    | bare _ hrun' =>
      have hread := run_append_eq hrun
      rw [hcs, run_append_eq hrun', Prod.mk.injEq] at hread
      exact ⟨by rw [hread.1], hread.2.symm⟩
    | quoted hm' => exact absurd hcs (ne_mark_cons_of_isRun hm' hne hrun _)
  | @quoted mark body text rest hm hs =>
    generalize hcs : mark :: (body ++ mark :: rest) = cs at h'
    cases h' with
    | bare hne' hrun' => exact absurd hcs.symm (ne_mark_cons_of_isRun hm hne' hrun' _)
    | quoted hm' hs' =>
      obtain ⟨rfl, hbody⟩ := List.cons.inj hcs
      have hmark := ne_backslash_of_quotationMark hm
      have hread : Reading.quoted mark (body ++ mark :: rest) = .ok (text, rest) :=
        (quoted_eq_ok_iff hmark).2 ⟨body, rfl, hs⟩
      rw [hbody, (quoted_eq_ok_iff hmark).2 ⟨_, rfl, hs'⟩, Except.ok.injEq, Prod.mk.injEq] at hread
      exact ⟨by rw [hread.1], hread.2.symm⟩

/-- A path goes on as long as dots follow. -/
lemma DerivesMore.unique {more more' : List Part} (h : DerivesMore cs more rest)
    (h' : DerivesMore cs more' rest') (hdot : rest.head? ≠ some '.')
    (hdot' : rest'.head? ≠ some '.') : more = more' ∧ rest = rest' := by
  induction h generalizing more' with
  | nil hg =>
    cases h' with
    | nil hg' => exact ⟨rfl, hg.unique hg'⟩
    | cons hg' =>
      rw [hg.unique hg'] at hdot
      simp at hdot
  | cons h₁ h₂ h₃ _ ih =>
    cases h' with
    | nil hg' =>
      rw [← h₁.unique hg'] at hdot'
      simp at hdot'
    | cons h₁' h₂' h₃' h₄' =>
      obtain rfl := (List.cons.inj (h₁.unique h₁')).2
      obtain rfl := h₂.unique h₂'
      obtain ⟨rfl, rfl⟩ := h₃.unique h₃'
      obtain ⟨rfl, rfl⟩ := ih h₄' hdot
      exact ⟨rfl, rfl⟩

/-! ## Comparisons -/

lemma DerivesOperator.unique {op op' : Operator} (hg : Gap cs cs) (h : DerivesOperator cs op rest)
    (h' : DerivesOperator cs op' rest') : op = op' ∧ rest = rest' := by
  have hread := operator_eq_ok_iff.2 ⟨cs, hg, h⟩
  rw [operator_eq_ok_iff.2 ⟨cs, hg, h'⟩, Except.ok.injEq, Prod.mk.injEq] at hread
  exact ⟨hread.1.symm, hread.2.symm⟩

/-- How the first character of a value tells what kind of value it is. -/
inductive LiteralKind (cs mid : List Char) : Char → Literal → Prop where
  | quoted {mark : Char} {text : List Char} {caseSensitive : Bool} (hm : QuotationMark mark) :
      LiteralKind cs mid mark (.quoted text caseSensitive)
  | regex {source flags : List Char} (hs : RegexBody false source)
      (hf : IsRun Regex.isFlag flags mid) (hcs : cs = '/' :: (source ++ '/' :: (flags ++ mid))) :
      LiteralKind cs mid '/' (.regex source flags)
  | token {c : Char} {token : List Char} (hc : c ∉ ['/', '"', '\''])
      (h : IsRun isTokenChar token mid) (hcs : cs = token ++ mid) :
      LiteralKind cs mid c (.token token)

lemma DerivesLiteral.kind {l : Literal} (h : DerivesLiteral cs l mid)
    (hg : Gap mid (']' :: rest)) : ∃ c ∈ cs.head?, LiteralKind cs mid c l := by
  cases h with
  | quoted hm => exact ⟨_, rfl, .quoted hm⟩
  | lettered hm => exact ⟨_, rfl, .quoted hm⟩
  | regex hs hf => exact ⟨_, rfl, .regex hs hf rfl⟩
  | token hrun =>
    obtain ⟨c, cs, hcs, hc⟩ := head_of_token hrun hg
    refine ⟨c, by rw [hcs]; rfl, .token ?_ hrun rfl⟩
    simp only [List.mem_cons, List.not_mem_nil, or_false]
    rintro (rfl | rfl | rfl) <;> revert hc <;> decide

lemma not_mem_of_quotationMark {mark : Char} (hm : QuotationMark mark)
    (h : mark ∉ ['/', '"', '\'']) : False := by
  cases hm <;> simp at h

/-- A value, and the letter behind it, is the only one before a closing bracket. -/
lemma DerivesLiteral.unique {l l' : Literal} (h : DerivesLiteral cs l mid)
    (hg : Gap mid (']' :: rest)) (h' : DerivesLiteral cs l' mid')
    (hg' : Gap mid' (']' :: rest')) : l = l' ∧ rest = rest' := by
  obtain ⟨c, hc, hkind⟩ := h.kind hg
  obtain ⟨c', hc', hkind'⟩ := h'.kind hg'
  obtain rfl : c = c' := Option.some.inj (hc.symm.trans hc')
  -- The first character says of which kind a literal is, so both readings are of one kind; within a
  -- kind a deterministic reader returns the same from both.
  cases hkind with
  | quoted hm =>
    cases hkind' with
    | quoted =>
      obtain ⟨cs, rfl⟩ := List.head?_eq_some_iff.1 hc
      obtain ⟨left, hread, hleft⟩ := (quotedValue_iff hm).2 ⟨_, mid, h, hg, rfl⟩
      obtain ⟨left', hread', hleft'⟩ := (quotedValue_iff hm).2 ⟨_, mid', h', hg', rfl⟩
      rw [hread', Except.ok.injEq, Prod.mk.injEq, Prod.mk.injEq, Operand.text.injEq,
        String.ofList_inj] at hread
      obtain ⟨⟨rfl, rfl⟩, rfl⟩ := hread
      exact ⟨rfl, (List.cons.inj (hleft.unique hleft')).2⟩
    | regex => cases hm
    | token hother => exact (not_mem_of_quotationMark hm hother).elim
  | @regex source flags hs hf hcs =>
    cases hkind' with
    | quoted hm => cases hm
    | regex hs' hf' hcs' =>
      have hread :
          regexSource false (source ++ '/' :: (flags ++ mid)) = .ok (source, flags ++ mid) :=
        regexSource_eq_ok_iff.2 ⟨rfl, hs⟩
      rw [(List.cons.inj (hcs.symm.trans hcs')).2, regexSource_eq_ok_iff.2 ⟨rfl, hs'⟩,
        Except.ok.injEq, Prod.mk.injEq] at hread
      obtain ⟨rfl, hflags⟩ := hread
      have hrun := run_append_eq hf
      rw [← hflags, run_append_eq hf', Prod.mk.injEq] at hrun
      obtain ⟨rfl, rfl⟩ := hrun
      exact ⟨rfl, (List.cons.inj (hg.unique hg')).2⟩
    | token hother => simp at hother
  | token hother hrun hcs =>
    cases hkind' with
    | quoted hm => exact (not_mem_of_quotationMark hm hother).elim
    | regex => simp at hother
    | token _ hrun' hcs' =>
      have hread := run_append_eq hrun
      rw [← hcs, hcs', run_append_eq hrun', Prod.mk.injEq] at hread
      obtain ⟨rfl, rfl⟩ := hread
      exact ⟨rfl, (List.cons.inj (hg.unique hg')).2⟩

lemma DerivesComparison.unique {comparison comparison' : Option (Operator × Literal)}
    (hg : Gap cs cs) (h : DerivesComparison cs comparison rest)
    (h' : DerivesComparison cs comparison' rest') : comparison = comparison' ∧ rest = rest' := by
  have hhead := (head_of_derivesComparison h).2
  have hhead' := (head_of_derivesComparison h').2
  cases h with
  | absent =>
    cases h' with
    | absent => exact ⟨rfl, rfl⟩
    | present => exact absurd rfl (hhead' rfl)
  | present h₁ h₂ h₃ h₄ =>
    cases h' with
    | absent => exact absurd rfl (hhead rfl)
    | present h₁' h₂' h₃' h₄' =>
      obtain ⟨rfl, rfl⟩ := h₁.unique hg h₁'
      obtain rfl := h₂.unique h₂'
      obtain ⟨rfl, rfl⟩ := h₃.unique h₄ h₃' h₄'
      exact ⟨rfl, rfl⟩

/-! ## Clauses and selectors -/

/-- **A clause is the only one at its place**, and ends in one place. -/
lemma DerivesClause.unique {clause clause' : Clause} (h : DerivesClause cs clause rest)
    (h' : DerivesClause cs clause' rest') : clause = clause' ∧ rest = rest' := by
  obtain ⟨h₁, h₂, h₃, h₄⟩ := h
  obtain ⟨h₁', h₂', h₃', h₄'⟩ := h'
  obtain rfl := h₁.unique h₁'
  obtain ⟨rfl, rfl⟩ := h₂.unique h₂'
  have hdot := (head_of_derivesComparison h₄).1
  have hdot' := (head_of_derivesComparison h₄').1
  obtain ⟨rfl, rfl⟩ := h₃.unique h₃' hdot hdot'
  obtain ⟨rfl, rfl⟩ := h₄.unique (gap_of_derivesMore h₃) h₄'
  exact ⟨rfl, rfl⟩

lemma DerivesClauses.unique {clauses clauses' : List Clause} (h : DerivesClauses cs clauses)
    (h' : DerivesClauses cs clauses') : clauses = clauses' := by
  induction h generalizing clauses' with
  | nil =>
    cases h' with
    | nil => rfl
    | cons h₁' => nomatch h₁'
  | cons h₁ h₂ _ ih =>
    cases h' with
    | nil => nomatch h₁
    | cons h₁' h₂' h₃' =>
      obtain ⟨rfl, rfl⟩ := h₁.unique h₁'
      obtain rfl := h₂.unique h₂'
      rw [ih h₃']

/-- **A text has one tree only.** -/
theorem Derives.tree_unique {tree tree' : Tree} (h : Derives cs tree) (h' : Derives cs tree') :
    tree = tree' := by
  obtain ⟨h₁, h₂, h₃, h₄, -⟩ := h
  obtain ⟨h₁', h₂', h₃', h₄', -⟩ := h'
  have hread := run_append_eq h₂
  rw [h₁.unique h₁', run_append_eq h₂', Prod.mk.injEq] at hread
  obtain ⟨rfl, rfl⟩ := hread
  obtain rfl := h₃.unique h₃'
  rw [h₄.unique h₄']

end ComponentQuery.Grammar
