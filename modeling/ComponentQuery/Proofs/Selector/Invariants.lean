import ComponentQuery.Proofs.Selector.SerialForm

/-!
# What every selector that has been read is like

A selector can be built that no text is read as: with an empty part in a path, with an operand that
is no number, or with case of no account where no text is compared.  `Selector.Lawful` excludes
these, and `Selector.lawful_of_parse` says that whatever is read is lawful.  The laws come from
different places of the grammar: the name and the parts of paths from their derivation, the operand
and whether case counts from what a literal denotes, the flags from the regular expression itself,
and the rest from the rule for whole texts.

A lawful selector is equal to itself, which one with an operand that is no number would not be.
-/

namespace ComponentQuery

open Grammar

/-! ## The laws -/

/-- What holds of every predicate that is read under some settings. -/
structure Predicate.Lawful (config : Config) (p : Predicate) : Prop where
  path_ne_nil : p.path ≠ []
  segment_ne_empty : ∀ s ∈ p.path, s ≠ ""
  /-- The name shows the parts of the path with dots between them. -/
  name : p.name.toList = ['.'].intercalate (p.path.map String.toList)
  truthy : p.comparison = .truthy → p.caseSensitive = true
  /-- Case is of no account only where a text is compared. -/
  caseSensitive : p.caseSensitive = false → ∃ s, p.comparison.operand? = some (.text s)
  numbers_wanted : config.allowUnquotedStrings = true →
    ∀ x, p.comparison.operand? ≠ some (.number x)
  number : ∀ x, p.comparison.operand? = some (.number x) → x.isNaN = false
  flags_nodup : ∀ r, p.comparison.operand? = some (.regex r) → r.flags.toList.Nodup
  flags : ∀ r, p.comparison.operand? = some (.regex r) →
    ∀ c ∈ r.flags.toList, c ∈ ['d', 'g', 'i', 'm', 's', 'u', 'y']

/-- What holds of every selector that is read under some settings. -/
structure Selector.Lawful (config : Config) (s : Selector) : Prop where
  ne_empty : ¬ (s.name = "" ∧ s.predicates = [])
  name : ∀ c ∈ s.name.toList, Reading.isNameChar c = true
  predicates : ∀ p ∈ s.predicates, p.Lawful config

/-! ## Paths -/

namespace Grammar

lemma DerivesPart.text_ne_nil {cs rest : List Char} {part : Part} (h : DerivesPart cs part rest) :
    part.text ≠ [] := by
  cases h <;> assumption

lemma DerivesMore.text_ne_nil {cs rest : List Char} {more : List Part}
    (h : DerivesMore cs more rest) : ∀ part ∈ more, part.text ≠ [] := by
  induction h with
  | nil => simp
  | cons _ _ h₃ _ ih => exact List.forall_mem_cons.2 ⟨h₃.text_ne_nil, ih⟩

lemma DerivesClause.ne_empty_of_mem_path {cs rest : List Char} {clause : Clause}
    (h : DerivesClause cs clause rest) :
    ∀ s ∈ pathOf (clause.first :: clause.more), s ≠ "" := by
  obtain ⟨-, hfirst, hmore, -⟩ := h
  intro s hs
  obtain ⟨part, hpart, rfl⟩ := List.mem_map.1 hs
  have hne : part.text ≠ [] := by
    rcases List.mem_cons.1 hpart with rfl | hpart
    · exact hfirst.text_ne_nil
    · exact hmore.text_ne_nil part hpart
  simpa using hne

/-! ## Operands -/

/-- What a literal denotes: case is of no account only for a text, and a number only where numbers
are wanted. -/
lemma Literal.Denotes.lawful {config : Config} {l : Literal} {v : Operand} {caseSensitive : Bool}
    (h : l.Denotes config v caseSensitive) :
    (caseSensitive = Bool.false → ∃ s, v = .text s) ∧
      (config.allowUnquotedStrings = Bool.true → ∀ x, v ≠ .number x) := by
  cases h with
  | text => simp
  | regex => simp
  | true => simp
  | false => simp
  | zero hc => simp [hc]
  | number hc => simp [hc]
  | string => simp

/-- What the end of a clause denotes: case is of no account only where a text is compared, and a
number is compared only where numbers are wanted. -/
lemma DenotesComparison.lawful {config : Config} {written : Option (Operator × Literal)}
    {c : Comparison} {caseSensitive : Bool}
    (h : DenotesComparison config written c caseSensitive) :
    (caseSensitive = false → ∃ s, c.operand? = some (.text s)) ∧
      (config.allowUnquotedStrings = true → ∀ x, c.operand? ≠ some (.number x)) := by
  cases h with
  | absent => simp [Comparison.operand?]
  | present hl hc =>
    cases hc with
    | equals v => simpa [Comparison.operand?] using hl.lawful
    | relates r s => simp [Comparison.operand?]

end Grammar

/-! ## Selectors -/

lemma Regex.nodup_flags (r : Regex) : r.flags.toList.Nodup :=
  (Regex.areFlags_iff.1 r.areFlags_flags).2

lemma Predicate.lawful_of_denotes {config : Config} {cs rest : List Char} {clause : Clause}
    {p : Predicate} (hd : DerivesClause cs clause rest) (h : clause.Denotes config p) :
    p.Lawful config where
  path_ne_nil := p.path_ne_nil
  segment_ne_empty := h.path ▸ hd.ne_empty_of_mem_path
  name := by simp [name, String.toList_intercalate]
  truthy := by
    intro htruthy
    by_contra hcase
    obtain ⟨s, hs⟩ := h.comparison.lawful.1 (eq_false_of_ne_true hcase)
    simp [htruthy, Comparison.operand?] at hs
  caseSensitive := h.comparison.lawful.1
  numbers_wanted := h.comparison.lawful.2
  number := fun x hx => h.comparison.noNaN (.number x) hx
  flags_nodup := fun r _ => r.nodup_flags
  flags := fun r _ => r.mem_letters_of_mem_flags

/-- Clauses that are read up to the end are lawful, as each is and those behind it are. -/
lemma Reading.lawful_of_clauses {config : Config} {cs : List Char} {ps : List Predicate}
    (h : clauses config cs = .ok (ps, [])) : ∀ p ∈ ps, p.Lawful config := by
  induction ps generalizing cs with
  | nil => simp
  | cons p ps ih =>
    obtain ⟨left, left', -, hclause, hclauses⟩ := clauses_cons_iff.1 h
    obtain ⟨clause, hd, hdenotes⟩ := clause_eq_ok_iff.1 hclause
    exact List.forall_mem_cons.2 ⟨Predicate.lawful_of_denotes hd hdenotes, ih hclauses⟩

namespace Selector

lemma SameButSign.refl (s : Selector) : s.SameButSign s := by
  refine ⟨rfl, List.forall₂_same.2 fun p _ => ⟨rfl, ?_, rfl⟩⟩
  cases p.comparison with
  | truthy => exact .truthy
  | equals v => exact .equals (.same v)
  | relates r t => exact .relates r t

lemma Lawful.beq_self {config : Config} {s : Selector} (h : s.Lawful config) :
    (s == s) = true := by
  refine ((SameButSign.refl s).beq_iff fun p hp v hv => ?_).2 rfl
  cases v with
  | number x => exact (h.predicates p hp).number x hv
  | text _ => rfl
  | boolean _ => rfl
  | regex _ => rfl

/-- **Whatever is read is lawful.**  A selector that is read from a text has a name or a clause; its
name is made of name characters; every path has a part and no empty part; case is of no account only
where a text is compared; numbers are compared only where they are wanted, and are numbers; and the
flags of regular expressions are known and not repeated.  So the selector is equal to itself, and to
whatever is read from the same text. -/
theorem lawful_of_parse {config : Config} {text : String} {s : Selector}
    (h : Selector.parse config text = .ok s) :
    s.Lawful config ∧ (s == s) = true ∧
      ∀ t, Selector.parse config text = .ok t → (s == t) = true := by
  obtain ⟨left, hname, hclauses, hne⟩ := Reading.selector_iff.1 (parse_eq_ok_iff.1 h)
  have hlawful : s.Lawful config :=
    { ne_empty := hne
      name := (Reading.run_eq_iff.1 hname).2.all
      predicates := Reading.lawful_of_clauses hclauses }
  refine ⟨hlawful, hlawful.beq_self, fun t ht => ?_⟩
  obtain rfl : s = t := Except.ok.inj (h.symm.trans ht)
  exact hlawful.beq_self

/-- A text that is compared without account of case, as it is read. -/
theorem lawful_of_parse_insensitive :
    ∃ s, Selector.parse ⟨false⟩ "[a='x'i]" = .ok s ∧ s.Lawful ⟨false⟩ ∧ (s == s) = true := by
  have htext : "[a='x'i]".toList = '[' :: 'a' :: '=' :: "'x'i]".toList := by decide
  have h := parse_of_comparison _ htext rfl
  exact ⟨_, h, (lawful_of_parse h).1, (lawful_of_parse h).2.1⟩

end Selector

end ComponentQuery
