import ComponentQuery.Proofs.Selector.Exactness
import ComponentQuery.Proofs.Selector.Locality

/-!
# Blanks in bare tokens

A bare token is what a selector writes without quotation marks: its name, the bare parts of its
paths, and its bare values.  The blanks of ASCII end a bare token, but all characters beyond ASCII,
and so all other blanks, may be a part of one.  `Selector.parse_blanks_iff` says what comes of this.
A selector has no blanks in its bare tokens exactly if no blank beyond ASCII stands directly behind
a character of one; and blanks may be added at its end exactly if they do not continue its name.

The first half follows from where tokens begin and end in the grammar.  For the second, everything
that the grammar derives before a character it also derives if more text is added behind that
character, so that only a name at the very end is affected.
-/

namespace ComponentQuery

open Grammar

namespace Grammar

/-! ## Bare tokens -/

def Part.bareTokens : Part → List (List Char)
  | .bare name => [name]
  | .quoted _ => []

def Literal.bareTokens : Literal → List (List Char)
  | .token cs => [cs]
  | .quoted _ _ => []
  | .regex _ _ => []

def Clause.bareTokens (clause : Clause) : List (List Char) :=
  clause.first.bareTokens ++ clause.more.flatMap Part.bareTokens ++
    (clause.comparison.map (·.2.bareTokens)).getD []

/-- The name, the bare parts of paths, and the bare values. -/
def Tree.bareTokens (tree : Tree) : List (List Char) :=
  tree.name :: tree.clauses.flatMap Clause.bareTokens

/-- Where a bare token may stand: it begins with no blank, and its characters are those of
tokens. -/
structure IsBareToken (token : List Char) : Prop where
  head : ∀ c ∈ token.head?, isBlank c = false
  all : ∀ c ∈ token, Reading.isTokenChar c = true

lemma isBareToken_of_isRun {token rest : List Char} {p : Char → Bool} (h : IsRun p token rest)
    (hp : ∀ c, p c = true → Reading.isTokenChar c = true)
    (hgap : ∀ c ∈ (token ++ rest).head?, isBlank c = false) : IsBareToken token where
  head := by
    cases token with
    | nil => simp
    | cons c token => exact hgap
  all c hc := hp c (h.all c hc)

lemma isTokenChar_of_isNameChar (c : Char) (h : Reading.isNameChar c = true) :
    Reading.isTokenChar c = true := by
  simp [Reading.isTokenChar, h]

lemma isBareToken_of_derivesPart {cs rest : List Char} {part : Part}
    (h : DerivesPart cs part rest) (hgap : ∀ c ∈ cs.head?, isBlank c = false) :
    ∀ token ∈ part.bareTokens, IsBareToken token := by
  cases h with
  | bare _ hrun =>
    simpa [Part.bareTokens] using isBareToken_of_isRun hrun isTokenChar_of_isNameChar hgap
  | quoted => simp [Part.bareTokens]

lemma isBareToken_of_derivesMore {cs rest : List Char} {more : List Part}
    (h : DerivesMore cs more rest) :
    ∀ token ∈ more.flatMap Part.bareTokens, IsBareToken token := by
  induction h with
  | nil => simp
  | cons _ h₂ h₃ _ ih =>
    intro token htoken
    rw [List.flatMap_cons] at htoken
    rcases List.mem_append.1 htoken with htoken | htoken
    · exact isBareToken_of_derivesPart h₃ h₂.head_not_blank token htoken
    · exact ih token htoken

lemma isBareToken_of_derivesComparison {cs rest : List Char}
    {comparison : Option (Operator × Literal)} (h : DerivesComparison cs comparison rest) :
    ∀ token ∈ (comparison.map (·.2.bareTokens)).getD [], IsBareToken token := by
  cases h with
  | absent => simp
  | present _ h₂ h₃ _ =>
    have hgap := h₂.head_not_blank
    cases h₃ with
    | quoted => simp [Literal.bareTokens]
    | lettered => simp [Literal.bareTokens]
    | regex => simp [Literal.bareTokens]
    | token hrun =>
      simpa [Literal.bareTokens] using isBareToken_of_isRun hrun (fun _ hc => hc) hgap

lemma isBareToken_of_derivesClauses {cs : List Char} {clauses : List Clause}
    (h : DerivesClauses cs clauses) :
    ∀ token ∈ clauses.flatMap Clause.bareTokens, IsBareToken token := by
  induction h with
  | nil => simp
  | cons h₁ _ _ ih =>
    intro token htoken
    rw [List.flatMap_cons] at htoken
    rcases List.mem_append.1 htoken with htoken | htoken
    · obtain ⟨hg, hp, hmore, hend⟩ := h₁
      rcases List.mem_append.1 htoken with htoken | htoken
      · rcases List.mem_append.1 htoken with htoken | htoken
        · exact isBareToken_of_derivesPart hp hg.head_not_blank token htoken
        · exact isBareToken_of_derivesMore hmore token htoken
      · exact isBareToken_of_derivesComparison hend token htoken
    · exact ih token htoken

/-- The grammar derives bare tokens only where they may stand. -/
theorem isBareToken_of_derives {cs : List Char} {tree : Tree} (h : Derives cs tree) :
    ∀ token ∈ tree.bareTokens, IsBareToken token := by
  obtain ⟨hg, hrun, -, hclauses, -⟩ := h
  intro token htoken
  rcases List.mem_cons.1 htoken with rfl | htoken
  · exact isBareToken_of_isRun hrun isTokenChar_of_isNameChar hg.head_not_blank
  · exact isBareToken_of_derivesClauses hclauses token htoken

/-- Blanks in a bare token are beyond ASCII. -/
lemma IsBareToken.le_toNat_of_isBlank {token : List Char} (h : IsBareToken token) {c : Char}
    (hc : c ∈ token) (hblank : isBlank c = true) : 0x80 ≤ c.toNat := by
  have htoken := h.all c hc
  rw [(Reading.isNameChar_isTokenChar_of_isBlank hblank).2] at htoken
  exact of_decide_eq_true htoken

/-- A bare token holds no blanks exactly if in it no blank beyond ASCII stands directly behind
another character. -/
lemma IsBareToken.forall_not_blank_iff {token : List Char} (h : IsBareToken token) :
    (∀ c ∈ token, isBlank c = false) ↔
      ∀ c d, [c, d] <:+: token → isBlank c = false → isBlank d = true → d.toNat < 0x80 := by
  constructor
  · intro hall c d hcd _ hd
    rw [hall d (hcd.subset (by simp))] at hd
    simp at hd
  · intro hpairs
    induction token with
    | nil => simp
    | cons c token ih =>
      have hc : isBlank c = false := h.head c rfl
      have hhead : ∀ d ∈ token.head?, isBlank d = false := by
        intro d hd
        obtain ⟨token, rfl⟩ := List.head?_eq_some_iff.1 hd
        by_contra hblank
        have hd := eq_true_of_ne_false hblank
        have hlt := hpairs c d (List.prefix_append [c, d] token).isInfix hc hd
        have hge := h.le_toNat_of_isBlank (by simp) hd
        omega
      have htoken := ih ⟨hhead, fun d hd => h.all d (List.mem_cons_of_mem c hd)⟩
        fun d e hde => hpairs d e (hde.trans (List.suffix_cons c token).isInfix)
      exact List.forall_mem_cons.2 ⟨hc, htoken⟩

/-! ## Text added at the end -/

/-- What is left after a piece still ends it if more is added behind. -/
lemma isRun_append {p : Char → Bool} {run rest : List Char} (h : IsRun p run rest)
    (hne : rest ≠ []) (w : List Char) : IsRun p run (rest ++ w) :=
  isRun_congr h (List.head?_append_of_ne_nil _ hne)

/-! Each of the following says that a piece before a text that is not empty stays what it is if
more is added behind, and, for the piece before it, that the two together are not empty. -/

lemma gap_append_right {cs rest : List Char} (h : Gap cs rest) (hne : rest ≠ [])
    (w : List Char) : cs ≠ [] ∧ Gap (cs ++ w) (rest ++ w) :=
  local_gap.append h hne w

lemma derivesPart_append {cs rest : List Char} {part : Part} (h : DerivesPart cs part rest)
    (hne : rest ≠ []) (w : List Char) : cs ≠ [] ∧ DerivesPart (cs ++ w) part (rest ++ w) :=
  (local_part part).append h hne w

lemma derivesMore_append {cs rest : List Char} {more : List Part} (h : DerivesMore cs more rest)
    (hne : rest ≠ []) (w : List Char) : cs ≠ [] ∧ DerivesMore (cs ++ w) more (rest ++ w) :=
  (local_more more).append h hne w

lemma derivesOperator_append {cs rest : List Char} {op : Operator}
    (h : DerivesOperator cs op rest) (w : List Char) :
    cs ≠ [] ∧ DerivesOperator (cs ++ w) op (rest ++ w) :=
  (closed_operator op).append h w

lemma derivesClause_append {cs rest : List Char} {clause : Clause}
    (h : DerivesClause cs clause rest) (w : List Char) :
    cs ≠ [] ∧ DerivesClause (cs ++ w) clause (rest ++ w) :=
  (closed_clause clause).append h w

variable {w : List Char}

lemma gap_nil_append {cs : List Char} (h : Gap cs []) (hw : ∀ c ∈ w, isBlank c = true) :
    Gap (cs ++ w) [] := by
  cases h with | @intro blanks _ hrun =>
  have hgap : Gap ((blanks ++ w) ++ []) [] :=
    gap_append (List.forall_mem_append.2 ⟨hrun.all, hw⟩) (by simp)
  simpa using hgap

lemma derivesClauses_append {cs : List Char} {clauses : List Clause}
    (h : DerivesClauses cs clauses) (hne : clauses ≠ []) (hw : ∀ c ∈ w, isBlank c = true) :
    cs ≠ [] ∧ DerivesClauses (cs ++ w) clauses := by
  induction h with
  | nil => exact absurd rfl hne
  | @cons _ _ _ _ clauses h₁ h₂ h₃ ih =>
    obtain ⟨hcs₁, h₁⟩ := derivesClause_append h₁ w
    by_cases hempty : clauses = []
    · subst hempty
      cases h₃
      exact ⟨hcs₁, .cons h₁ (gap_nil_append h₂ hw) .nil⟩
    · obtain ⟨hcs₃, h₃⟩ := ih hempty
      obtain ⟨-, h₂⟩ := gap_append_right h₂ hcs₃ w
      exact ⟨hcs₁, .cons h₁ h₂ h₃⟩

lemma derives_append_of_clauses {cs : List Char} {tree : Tree} (h : Derives cs tree)
    (hne : tree.clauses ≠ []) (hw : ∀ c ∈ w, isBlank c = true) : Derives (cs ++ w) tree := by
  obtain ⟨h₁, h₂, h₃, h₄, hempty⟩ := h
  obtain ⟨hcs₃, h₄⟩ := derivesClauses_append h₄ hne hw
  obtain ⟨hcs₂, h₃⟩ := gap_append_right h₃ hcs₃ w
  obtain ⟨-, h₁⟩ := gap_append_right h₁ (List.append_ne_nil_of_right_ne_nil _ hcs₂) w
  rw [List.append_assoc] at h₁
  exact .intro h₁ (isRun_append h₂ hcs₂ w) h₃ h₄ hempty

/-- What a selector without clauses is: a name between gaps. -/
lemma derives_nil_iff {cs name : List Char} :
    Derives cs ⟨name, []⟩ ↔
      ∃ after, Gap cs (name ++ after) ∧ IsRun Reading.isNameChar name after ∧ Gap after [] ∧
        name ≠ [] := by
  constructor
  · rintro ⟨h₁, h₂, h₃, ⟨⟩, hne⟩
    exact ⟨_, h₁, h₂, h₃, fun h => hne ⟨h, rfl⟩⟩
  · rintro ⟨after, h₁, h₂, h₃, hne⟩
    exact .intro h₁ h₂ h₃ .nil fun h => hne h.1

/-- A name with a gap behind it does not end the text. -/
lemma not_isSuffix_of_gap {cs name after : List Char} (h₁ : Gap cs (name ++ after))
    (h₂ : IsRun Reading.isNameChar name after) (h₃ : Gap after []) (hname : name ≠ [])
    (hafter : after ≠ []) : ¬ name <:+ cs := by
  intro hsuffix
  obtain ⟨c, name, rfl⟩ := List.exists_cons_of_ne_nil hname
  obtain ⟨d, after, rfl⟩ := List.exists_cons_of_ne_nil hafter
  have hc : isBlank c = false := h₁.head_not_blank c rfl
  have hd : Reading.isNameChar d = false := h₂.maximal d rfl
  have hblank : ∀ e ∈ d :: after, isBlank e = true := by
    generalize d :: after = after at h₃
    obtain ⟨hrun⟩ := h₃
    simpa using hrun.all
  have hend : d :: after <:+ cs := by
    obtain ⟨-⟩ := h₁
    exact (List.suffix_append _ _).trans (List.suffix_append _ _)
  -- One of the name and the gap would end the other.
  rcases List.suffix_or_suffix_of_suffix hsuffix hend with h | h
  · have := hblank c (h.subset (List.mem_cons_self ..))
    simp [hc] at this
  · have := h₂.all d (h.subset (List.mem_cons_self ..))
    simp [hd] at this

/-- Blanks may be added behind a selector without clauses exactly if they do not continue its
name. -/
lemma derives_append_iff_of_name {cs name : List Char} (h : Derives cs ⟨name, []⟩)
    (hw : ∀ c ∈ w, isBlank c = true) :
    Derives (cs ++ w) ⟨name, []⟩ ↔ ¬ name <:+ cs ∨ ∀ c ∈ w.head?, c.toNat < 0x80 := by
  obtain ⟨after, h₁, h₂, h₃, hname⟩ := derives_nil_iff.1 h
  have hcs := (gap_append_right h₁ (by simp [hname]) w).2
  rw [List.append_assoc] at hcs
  by_cases hafter : after = []
  · subst hafter
    have hend : name <:+ cs := by
      obtain ⟨-⟩ := h₁
      simp
    have hblank : ∀ c ∈ w.head?, Reading.isNameChar c = decide (0x80 ≤ c.toNat) := fun c hc =>
      (Reading.isNameChar_isTokenChar_of_isBlank (hw c (List.mem_of_mem_head? hc))).1
    rw [derives_nil_iff]
    constructor
    · rintro ⟨after, h₁', h₂', -⟩
      obtain rfl := List.append_cancel_left (hcs.unique h₁')
      refine .inr fun c hc => ?_
      have hmax := h₂'.maximal c hc
      rw [hblank c hc] at hmax
      simpa using hmax
    · rintro (hnot | hascii)
      · exact absurd hend hnot
      · refine ⟨w, hcs, ⟨h₂.all, fun c hc => ?_⟩, gap_nil_append h₃ hw, hname⟩
        rw [hblank c hc]
        simpa using hascii c hc
  · refine ⟨fun _ => .inl (not_isSuffix_of_gap h₁ h₂ h₃ hname hafter), fun _ => ?_⟩
    exact derives_nil_iff.2 ⟨_, hcs, isRun_append h₂ hafter w, gap_nil_append h₃ hw, hname⟩

end Grammar

/-- A selector is read from a text with blanks added exactly if they do not continue its name. -/
lemma Selector.parse_append_iff {config : Config} {text : String} {s : Selector}
    (h : Selector.parse config text = .ok s) {w : List Char} (hw : ∀ c ∈ w, isBlank c = true) :
    Selector.parse config (text ++ String.ofList w) = .ok s ↔
      s.predicates ≠ [] ∨ ¬ s.name.toList <:+ text.toList ∨ ∀ c ∈ w.head?, c.toNat < 0x80 := by
  rw [Selector.parse_eq_ok_iff, Reading.selector_eq_ok_iff] at h ⊢
  obtain ⟨⟨name, clauses⟩, hd, hden, hall⟩ := h
  have htext : (text ++ String.ofList w).toList = text.toList ++ w := by simp
  have hname : s.name.toList = name := by simp [hden]
  rw [htext, hname]
  by_cases hps : s.predicates = []
  · rw [hps] at hall
    obtain rfl := List.forall₂_nil_right_iff.1 hall
    rw [← derives_append_iff_of_name hd hw]
    simp only [hps, ne_eq, not_true_eq_false, false_or]
    constructor
    · rintro ⟨⟨name', clauses'⟩, hd', hname', hall'⟩
      rw [hps] at hall'
      obtain rfl := List.forall₂_nil_right_iff.1 hall'
      obtain rfl : name = name' := by
        rw [← hname, hname']
        simp
      exact hd'
    · exact fun hd' => ⟨_, hd', hden, hps ▸ .nil⟩
  · refine ⟨fun _ => .inl hps, fun _ => ⟨_, derives_append_of_clauses hd ?_ hw, ?_, hall⟩⟩
    · rintro rfl
      exact hps (List.forall₂_nil_left_iff.1 hall)
    · exact hden

/-- **Blanks and bare tokens.**  Let a selector be read from a text.  No bare token begins with a
blank or holds one of ASCII, and the bare tokens hold no blanks at all exactly if no blank beyond
ASCII stands directly behind another character in one of them.  And with blanks added at the end
of the text the same selector is read exactly if it has clauses, or there are blanks behind its name
already, or the first of the blanks added is one of ASCII. -/
theorem Selector.parse_blanks_iff (config : Config) (text : String) (s : Selector)
    (h : Selector.parse config text = .ok s) :
    (∃ tree, Derives text.toList tree ∧ tree.Denotes config s) ∧
      (∀ tree, Derives text.toList tree →
        (∀ token ∈ tree.bareTokens, (∀ c ∈ token.head?, isBlank c = false) ∧
          ∀ c ∈ token, isBlank c = true → 0x80 ≤ c.toNat) ∧
        ((∀ token ∈ tree.bareTokens, ∀ c ∈ token, isBlank c = false) ↔
          ∀ token ∈ tree.bareTokens, ∀ c d, [c, d] <:+: token → isBlank c = false →
            isBlank d = true → d.toNat < 0x80)) ∧
      ∀ w : List Char, (∀ c ∈ w, isBlank c = true) →
        (Selector.parse config (text ++ String.ofList w) = .ok s ↔
          s.predicates ≠ [] ∨ ¬ s.name.toList <:+ text.toList ∨ ∀ c ∈ w.head?, c.toNat < 0x80) := by
  refine ⟨?_, fun tree hd => ?_, fun w hw => Selector.parse_append_iff h hw⟩
  · rw [Selector.parse_eq_ok_iff, Reading.selector_eq_ok_iff] at h
    exact h
  · have htokens := isBareToken_of_derives hd
    refine ⟨fun token htoken => ⟨(htokens token htoken).head, fun c hc hblank => ?_⟩, ?_, ?_⟩
    · exact (htokens token htoken).le_toNat_of_isBlank hc hblank
    · intro hall token htoken
      exact (htokens token htoken).forall_not_blank_iff.1 (hall token htoken)
    · intro hall token htoken
      exact (htokens token htoken).forall_not_blank_iff.2 (hall token htoken)

/-- A space may be added behind a name. -/
theorem Selector.parse_name_space :
    Selector.parse ⟨false⟩ "a" = .ok ⟨"a", []⟩ ∧
      Selector.parse ⟨false⟩ "a " = .ok ⟨"a", []⟩ := by
  have h : Selector.parse ⟨false⟩ "a" = .ok ⟨"a", []⟩ :=
    Selector.parse_eq_ok_iff.2 (Reading.selector_iff.2
      ⟨[], by decide, Reading.clauses_nil_iff.2 rfl, by simp⟩)
  have hiff := (Selector.parse_blanks_iff ⟨false⟩ "a" ⟨"a", []⟩ h).2.2 [' ']
    (by simpa using (by decide : isBlank ' ' = true))
  exact ⟨h, hiff.2 (.inr (.inr (by simp)))⟩

/-- A no-break space added behind a name becomes a part of it. -/
theorem Selector.parse_name_no_break_space :
    Selector.parse ⟨false⟩ "a" = .ok ⟨"a", []⟩ ∧
      Selector.parse ⟨false⟩ "a\u00a0" = .ok ⟨"a\u00a0", []⟩ ∧ isBlank '\u00a0' = true := by
  refine ⟨?_, ?_, by decide⟩ <;> rw [Selector.parse_eq_ok_iff, Reading.selector_iff]
  · exact ⟨[], by decide, Reading.clauses_nil_iff.2 rfl, by simp⟩
  · exact ⟨[], by decide, Reading.clauses_nil_iff.2 rfl, by simp⟩

end ComponentQuery
