import ComponentQuery.Proofs.Json.RoundTrip
import ComponentQuery.Proofs.Selector.Exactness
import ComponentQuery.Selector.Serial

/-!
# What the serialised form of a selector tells

A selector that has been read can be told from its text in JSON, but for one thing: JSON has no way
to write infinities, so that both are written as `null`, and the text does not tell the sign of an
infinite operand.  `Selector.SameButSign` says that two selectors differ in such signs at most.

The text of a value is read as its draft, so that values of one text have one draft.  From the
draft each part of a selector is recovered: names and paths as they are, regular expressions since
their flags have no slash, and finite doubles since they are read back from their digits.  What is
no number would have the text of the infinities, too, but no literal denotes it.

The main result is `Selector.text_eq_iff`.
-/

namespace ComponentQuery

open Grammar

/-! ## Regular expressions -/

namespace Regex

/-- Only flags that are letters, each there once, can be compiled. -/
lemma areFlags_flags (r : Regex) : areFlags r.flags.toList = true :=
  (compileMatcher_eq_ok_iff.1 r.matcher_eq).1

lemma mem_letters_of_mem_flags (r : Regex) : ∀ c ∈ r.flags.toList, c ∈ letters := fun c hc =>
  List.contains_iff_mem.1 ((areFlags_iff.1 r.areFlags_flags).1 c hc)

lemma slash_notMem_flags (r : Regex) : '/' ∉ r.flags.toList := fun hslash =>
  absurd (r.mem_letters_of_mem_flags '/' hslash) (by decide)

lemma isRun_reverse_flags (r : Regex) :
    IsRun (· != '/') r.flags.toList.reverse ('/' :: (r.source.toList.reverse ++ ['/'])) := by
  refine .before_cons (fun c hc => ?_) (by decide)
  have hne : c ≠ '/' := by
    rintro rfl
    exact r.slash_notMem_flags (List.mem_reverse.1 hc)
  simpa using hne

lemma reverse_text (r : Regex) :
    r.text.toList.reverse =
      r.flags.toList.reverse ++ '/' :: (r.source.toList.reverse ++ ['/']) := by
  simp [text]

/-- **Regular expressions that are written alike are the same**: the flags are what follows the last
slash. -/
theorem eq_of_text_eq {q r : Regex} (h : q.text = r.text) : q = r := by
  have hchars := q.reverse_text
  rw [h, r.reverse_text] at hchars
  have hflags := congrArg (List.takeWhile (· != '/')) hchars
  have hsource := congrArg (List.dropWhile (· != '/')) hchars
  rw [q.isRun_reverse_flags.takeWhile_eq, r.isRun_reverse_flags.takeWhile_eq] at hflags
  rw [q.isRun_reverse_flags.dropWhile_eq, r.isRun_reverse_flags.dropWhile_eq] at hsource
  have hflags : q.flags = r.flags := String.toList_inj.1 (by simpa using hflags.symm)
  have hsource : q.source = r.source := String.toList_inj.1 (by simpa using hsource.symm)
  refine eq_of_beq ?_
  simp [BEq.beq, hflags, hsource]

end Regex

/-! ## Drafts -/

namespace Json

section Equal

variable {s t k j : String} {b c : Bool} {v w : Json} {items items' : List Json}
  {members members' : List (String × Json)}

lemma StringDraft.ofString_inj : StringDraft.ofString s = .ofString t ↔ s = t := by
  simp [StringDraft.ofString, String.toList_inj]

@[simp] lemma draft_string_inj : (Json.string s).draft = (Json.string t).draft ↔ s = t := by
  simp [draft, StringDraft.ofString_inj]

@[simp] lemma draft_boolean_inj : (Json.boolean b).draft = (Json.boolean c).draft ↔ b = c := by
  simp [draft]

@[simp] lemma draft_array_inj :
    (Json.array items).draft = (Json.array items').draft ↔
      itemsDraft items = itemsDraft items' := by
  simp [draft]

@[simp] lemma draft_object_inj :
    (Json.object members).draft = (Json.object members').draft ↔
      membersDraft members = membersDraft members' := by
  simp [draft]

@[simp] lemma membersDraft_cons_inj :
    membersDraft ((k, v) :: members) = membersDraft ((j, w) :: members') ↔
      k = j ∧ v.draft = w.draft ∧ membersDraft members = membersDraft members' := by
  simp [membersDraft, StringDraft.ofString_inj, and_assoc]

end Equal

lemma itemsDraft_eq_map (items : List Json) : itemsDraft items = items.map draft := by
  induction items with
  | nil => rfl
  | cons v items ih => rw [itemsDraft, ih, List.map_cons]

lemma forall₂_draft_of_itemsDraft_eq {α : Type} {f : α → Json} {xs ys : List α}
    (h : itemsDraft (xs.map f) = itemsDraft (ys.map f)) :
    List.Forall₂ (fun x y => (f x).draft = (f y).draft) xs ys := by
  rw [itemsDraft_eq_map, itemsDraft_eq_map, List.map_map, List.map_map] at h
  rw [← List.forall₂_eq_eq_eq, List.forall₂_map_left_iff, List.forall₂_map_right_iff] at h
  exact h

lemma itemChars_of_forall₂ {α : Type} {f : α → Json} {xs ys : List α}
    (h : List.Forall₂ (fun x y => (f x).chars = (f y).chars) xs ys) :
    itemChars (xs.map f) = itemChars (ys.map f) := by
  induction h with
  | nil => rfl
  | cons hxy _ ih => simp only [List.map_cons, itemChars, hxy, ih]

lemma chars_array_of_forall₂ {α : Type} {f : α → Json} {xs ys : List α}
    (h : List.Forall₂ (fun x y => (f x).chars = (f y).chars) xs ys) :
    (Json.array (xs.map f)).chars = (Json.array (ys.map f)).chars := by
  cases h with
  | nil => rfl
  | cons hxy h => simp only [List.map_cons, chars, hxy, itemChars_of_forall₂ h]

/-- A finite double is told by its draft, an infinity only as such. -/
lemma eq_or_infinite_of_draft_eq {x y : Binary64} (hx : x.isNaN = false) (hy : y.isNaN = false)
    (h : (Number.double x).draft = (Number.double y).draft) :
    x = y ∨ ∃ s t, x = .infinite s ∧ y = .infinite t := by
  match x, y with
  | .nan, _ => simp [Binary64.isNaN] at hx
  | _, .nan => simp [Binary64.isNaN] at hy
  | .infinite s, .infinite t => exact .inr ⟨s, t, rfl, rfl⟩
  | .infinite _, .finite .. => simp [Number.draft] at h
  | .finite .., .infinite _ => simp [Number.draft] at h
  | .finite s q hq, .finite t r hr =>
    have hread := congrArg NumberDraft.read (Draft.number.inj h)
    rw [read_double s hq, read_double t hr] at hread
    exact .inl (Number.double.inj (Except.ok.inj hread))

end Json

/-! ## Selectors that differ in signs -/

/-- The same operand, but perhaps for the sign of an infinity. -/
inductive Operand.SameButSign : Operand → Operand → Prop where
  | same (v : Operand) : SameButSign v v
  | infinite (s t : Bool) : SameButSign (.number (.infinite s)) (.number (.infinite t))

/-- The same comparison, but perhaps for the sign of an infinite operand. -/
inductive Comparison.SameButSign : Comparison → Comparison → Prop where
  | truthy : SameButSign .truthy .truthy
  | equals {v w : Operand} (h : v.SameButSign w) : SameButSign (.equals v) (.equals w)
  | relates (r : TextRelation) (s : String) : SameButSign (.relates r s) (.relates r s)

/-- The same predicate, but perhaps for the sign of an infinite operand. -/
structure Predicate.SameButSign (p q : Predicate) : Prop where
  path : p.path = q.path
  comparison : p.comparison.SameButSign q.comparison
  caseSensitive : p.caseSensitive = q.caseSensitive

/-- The same selector, but perhaps for the signs of infinite operands. -/
structure Selector.SameButSign (p q : Selector) : Prop where
  name : p.name = q.name
  predicates : List.Forall₂ Predicate.SameButSign p.predicates q.predicates

/-- The sign of an infinite operand. -/
def Operand.infinity? : Operand → Option Bool
  | .number (.infinite s) => some s
  | _ => none

/-- The sign of the operand if it is infinite. -/
def Comparison.infinity? (c : Comparison) : Option Bool := c.operand?.bind Operand.infinity?

/-- The signs of the infinite operands, predicate by predicate. -/
def Selector.infinities (s : Selector) : List (Option Bool) :=
  s.predicates.map (·.comparison.infinity?)

/-! ## Operands that are equal to themselves -/

/-- Whether an operand is the double that is no number. -/
def Operand.isNaN : Operand → Bool
  | .number x => x.isNaN
  | _ => false

/-- The operand, if there is one, is not the double that is no number. -/
def Comparison.NoNaN (c : Comparison) : Prop := ∀ v ∈ c.operand?, v.isNaN = false

/-- No operand of a selector is the double that is no number. -/
def Selector.NoNaN (s : Selector) : Prop := ∀ p ∈ s.predicates, p.comparison.NoNaN

namespace Grammar

lemma Literal.Denotes.isNaN_eq_false {config : Config} {l : Literal} {v : Operand}
    {caseSensitive : Bool} (h : l.Denotes config v caseSensitive) : v.isNaN = Bool.false := by
  cases h with
  | text => rfl
  | regex => rfl
  | true => rfl
  | false => rfl
  | zero => rfl
  | number _ hx => exact hx.isNaN_eq_false
  | string => rfl

lemma DenotesComparison.noNaN {config : Config} {written : Option (Operator × Literal)}
    {c : Comparison} {caseSensitive : Bool}
    (h : DenotesComparison config written c caseSensitive) : c.NoNaN := by
  intro v hv
  cases h with
  | absent => simp [Comparison.operand?] at hv
  | present hl hc =>
    cases hc <;> obtain rfl := Option.some.inj hv <;> exact hl.isNaN_eq_false

end Grammar

/-- No operand of a selector that has been read is the double that is no number. -/
lemma Selector.noNaN_of_parse {config : Config} {text : String} {s : Selector}
    (h : Selector.parse config text = .ok s) : s.NoNaN := by
  obtain ⟨tree, -, -, hall⟩ := Reading.selector_eq_ok_iff.1 (Selector.parse_eq_ok_iff.1 h)
  intro p hp
  obtain ⟨i, hi, rfl⟩ := List.getElem_of_mem hp
  have hdenotes := (List.forall₂_iff_get.1 hall).2 i (hall.length_eq ▸ hi) hi
  exact hdenotes.comparison.noNaN

/-! ## What the text tells -/

lemma Operand.sameButSign_of_draft_eq {v w : Operand} (hv : v.isNaN = false) (hw : w.isNaN = false)
    (h : v.toJson.draft = w.toJson.draft) : v.SameButSign w := by
  -- Operands of different kinds have different types in their drafts.
  cases v <;> cases w <;> simp only [toJson, Json.draft_object_inj, Json.membersDraft_cons_inj,
    Json.draft_string_inj, Json.draft_boolean_inj, String.reduceEq, false_and, and_false, true_and,
    and_true] at h
  case text.text s t =>
    rw [h]
    exact .same _
  case number.number x y =>
    obtain rfl | ⟨s, t, rfl, rfl⟩ := Json.eq_or_infinite_of_draft_eq hv hw h
    · exact .same _
    · exact .infinite s t
  case boolean.boolean b c =>
    rw [h]
    exact .same _
  case regex.regex q r =>
    rw [Regex.eq_of_text_eq h]
    exact .same _

lemma Operator.eq_of_name_eq {o u : Operator} (h : o.name = u.name) : o = u := by
  rcases o with _ | _ | _ | _ <;> rcases u with _ | _ | _ | _ <;>
    first | rfl | exact absurd h (by decide)

lemma Comparison.exists_toJson_eq (c : Comparison) :
    ∃ members, c.toJson = .object (("op", .string c.operator.name) :: members) := by
  cases c <;> exact ⟨_, rfl⟩

lemma Comparison.operator_eq_of_draft_eq {c d : Comparison} (h : c.toJson.draft = d.toJson.draft) :
    c.operator = d.operator := by
  obtain ⟨ms, hms⟩ := c.exists_toJson_eq
  obtain ⟨ns, hns⟩ := d.exists_toJson_eq
  rw [hms, hns, Json.draft_object_inj, Json.membersDraft_cons_inj, Json.draft_string_inj] at h
  exact Operator.eq_of_name_eq h.2.1

lemma Comparison.sameButSign_of_draft_eq {c d : Comparison} (hc : c.NoNaN) (hd : d.NoNaN)
    (h : c.toJson.draft = d.toJson.draft) : c.SameButSign d := by
  have hoperator := operator_eq_of_draft_eq h
  cases c <;> cases d <;> simp only [operator, reduceCtorEq, Operator.relates.injEq] at hoperator
  case truthy.truthy => exact .truthy
  case equals.equals v w =>
    simp only [toJson, Json.draft_object_inj, Json.membersDraft_cons_inj, and_true, true_and] at h
    exact .equals (Operand.sameButSign_of_draft_eq (hc v rfl) (hd w rfl) h.2)
  case relates.relates r s r' t =>
    subst hoperator
    simp only [toJson, Json.draft_object_inj, Json.membersDraft_cons_inj, Json.draft_string_inj,
      and_true, true_and] at h
    rw [h.2]
    exact .relates r t

lemma Predicate.sameButSign_of_draft_eq {p q : Predicate} (hp : p.comparison.NoNaN)
    (hq : q.comparison.NoNaN) (h : p.toJson.draft = q.toJson.draft) : p.SameButSign q := by
  simp only [toJson, Json.draft_object_inj, Json.membersDraft_cons_inj, Json.draft_array_inj,
    Json.draft_boolean_inj, and_true, true_and] at h
  obtain ⟨-, hpath, hcomparison, hcase⟩ := h
  have hnames := Json.forall₂_draft_of_itemsDraft_eq hpath
  simp only [Json.draft_string_inj, List.forall₂_eq_eq_eq] at hnames
  exact ⟨hnames, Comparison.sameButSign_of_draft_eq hp hq hcomparison, hcase⟩

/-- The text of a selector tells all of it but the signs of infinite operands. -/
lemma Selector.sameButSign_of_text_eq {p q : Selector} (hp : p.NoNaN) (hq : q.NoNaN)
    (h : p.toJson.text = q.toJson.text) : p.SameButSign q := by
  have hdraft := Json.draft_eq_of_text_eq h
  simp only [toJson, Json.draft_object_inj, Json.membersDraft_cons_inj, Json.draft_string_inj,
    Json.draft_array_inj, and_true, true_and] at hdraft
  obtain ⟨hname, hpredicates⟩ := hdraft
  have hdrafts := Json.forall₂_draft_of_itemsDraft_eq hpredicates
  refine ⟨hname, List.forall₂_iff_get.2 ⟨hdrafts.length_eq, fun i hi hi' => ?_⟩⟩
  exact Predicate.sameButSign_of_draft_eq (hp _ (List.get_mem ..)) (hq _ (List.get_mem ..))
    ((List.forall₂_iff_get.1 hdrafts).2 i hi hi')

/-! ## What the text does not tell -/

lemma Operand.SameButSign.chars_eq {v w : Operand} (h : v.SameButSign w) :
    v.toJson.chars = w.toJson.chars := by
  cases h with
  | same => rfl
  | infinite => rfl

lemma Comparison.SameButSign.chars_eq {c d : Comparison} (h : c.SameButSign d) :
    c.toJson.chars = d.toJson.chars := by
  cases h with
  | truthy => rfl
  | equals h => simp only [toJson, operator, Json.chars, Json.memberChars, h.chars_eq]
  | relates => rfl

lemma Predicate.SameButSign.chars_eq {p q : Predicate} (h : p.SameButSign q) :
    p.toJson.chars = q.toJson.chars := by
  simp only [toJson, name, Json.chars, Json.memberChars, h.path, h.comparison.chars_eq,
    h.caseSensitive]

/-- The text of a selector does not tell the signs of infinite operands. -/
lemma Selector.SameButSign.text_eq {p q : Selector} (h : p.SameButSign q) :
    p.toJson.text = q.toJson.text := by
  have hpredicates := Json.chars_array_of_forall₂
    (h.predicates.imp fun _ _ hpq => hpq.chars_eq)
  simp only [Json.text, toJson, Json.chars, Json.memberChars, h.name] at hpredicates ⊢
  rw [hpredicates]

/-! ## Equality -/

lemma Operand.SameButSign.beq_iff {v w : Operand} (h : v.SameButSign w) (hv : v.isNaN = false) :
    (v == w) = true ↔ v.infinity? = w.infinity? := by
  cases h with
  | infinite s t => simp [BEq.beq, eq, Binary64.eq, infinity?]
  | same v =>
    cases v with
    | number x =>
      cases x with
      | nan => simp [isNaN, Binary64.isNaN] at hv
      | infinite s => simp [BEq.beq, eq, Binary64.eq]
      | finite s q hq => simp [BEq.beq, eq, Binary64.eq]
    | _ => simp [BEq.beq, eq]

lemma Comparison.SameButSign.beq_iff {c d : Comparison} (h : c.SameButSign d) (hc : c.NoNaN) :
    (c == d) = true ↔ c.infinity? = d.infinity? := by
  cases h with
  | truthy => simp [BEq.beq, eq]
  | relates r s => simp [BEq.beq, eq]
  | equals h => exact h.beq_iff (hc _ rfl)

lemma Predicate.SameButSign.beq_iff {p q : Predicate} (h : p.SameButSign q)
    (hp : p.comparison.NoNaN) :
    (p == q) = true ↔ p.comparison.infinity? = q.comparison.infinity? := by
  rw [← h.comparison.beq_iff hp]
  have hbeq : (p == q) = (p.path == q.path && p.comparison == q.comparison &&
    p.caseSensitive == q.caseSensitive) := rfl
  simp [hbeq, h.path, h.caseSensitive]

lemma Predicate.beq_iff_of_forall₂ {ps qs : List Predicate} (h : List.Forall₂ SameButSign ps qs)
    (hps : ∀ p ∈ ps, p.comparison.NoNaN) : (ps == qs) = true ↔
      ps.map (·.comparison.infinity?) = qs.map (·.comparison.infinity?) := by
  induction h with
  | nil => simp
  | cons hpq _ ih =>
    obtain ⟨hp, hps⟩ := List.forall_mem_cons.1 hps
    rw [List.cons_beq_cons, Bool.and_eq_true_iff, hpq.beq_iff hp, ih hps, List.map_cons,
      List.map_cons, List.cons.injEq]

/-- Selectors that are the same but for signs are equal if the signs are. -/
lemma Selector.SameButSign.beq_iff {p q : Selector} (h : p.SameButSign q) (hp : p.NoNaN) :
    (p == q) = true ↔ p.infinities = q.infinities := by
  have hbeq : (p == q) = (p.name == q.name && p.predicates == q.predicates) := rfl
  rw [hbeq, h.name, beq_self_eq_true, Bool.true_and]
  exact Predicate.beq_iff_of_forall₂ h.predicates hp

/-! ## Selectors of one text -/

/-- **The serialised form tells a selector but for the signs of infinite operands.**  Two selectors
that have been read, with whichever settings, have the same text in JSON if and only if they are the
same but for such signs: name, paths, operators, operands and case sensitivity agree.  And
if their texts are the same, they are equal exactly if the signs are. -/
theorem Selector.text_eq_iff {c d : Config} {s t : String} {p q : Selector}
    (hp : Selector.parse c s = .ok p) (hq : Selector.parse d t = .ok q) :
    (p.toJson.text = q.toJson.text ↔ p.SameButSign q) ∧
      (p.toJson.text = q.toJson.text → ((p == q) = true ↔ p.infinities = q.infinities)) := by
  have htext : p.toJson.text = q.toJson.text ↔ p.SameButSign q :=
    ⟨sameButSign_of_text_eq (noNaN_of_parse hp) (noNaN_of_parse hq), SameButSign.text_eq⟩
  exact ⟨htext, fun h => (htext.1 h).beq_iff (noNaN_of_parse hp)⟩

lemma Selector.parse_of_comparison {text : String} (cs : List Char) {v : Operand}
    {caseSensitive : Bool} (htext : text.toList = '[' :: 'a' :: '=' :: cs)
    (h : Reading.comparison ⟨false⟩ ('=' :: cs) = .ok ((.equals v, caseSensitive), [])) :
    Selector.parse ⟨false⟩ text = .ok ⟨"", [⟨["a"], by simp, .equals v, caseSensitive⟩]⟩ := by
  have hskip : skipBlanks ('=' :: cs) = '=' :: cs := skipBlanks_cons (by decide) cs
  have hmore := Reading.moreSegments_of_no_dot (gap_skipBlanks ('=' :: cs)) (by simp [hskip])
  rw [hskip] at hmore
  have hclause : Reading.clause ⟨false⟩ ('a' :: '=' :: cs) =
      .ok (⟨["a"], by simp, .equals v, caseSensitive⟩, []) :=
    Reading.clause_iff.2 ⟨_, _, _, _, rfl, hmore, rfl, .inr (hskip.symm ▸ ⟨by simp, h⟩)⟩
  refine Selector.parse_eq_ok_iff.2 (Reading.selector_iff.2 ⟨text.toList, ?_, ?_, by simp⟩)
  · rw [htext]
    rfl
  · rw [htext]
    exact Reading.clauses_cons_iff.2 ⟨_, [], rfl, hclause, Reading.clauses_nil_iff.2 rfl⟩

/-- A literal that is too large for a double is read as an infinity, and has its text. -/
theorem Selector.text_eq_overflow :
    ∃ p q, Selector.parse ⟨false⟩ "[a=Infinity]" = .ok p ∧
      Selector.parse ⟨false⟩ "[a=1e999]" = .ok q ∧ p.toJson.text = q.toJson.text ∧
      (p == q) = true := by
  have hinfinity : Selector.parse ⟨false⟩ "[a=Infinity]" =
      .ok ⟨"", [⟨["a"], by simp, .equals (.number (.infinite false)), true⟩]⟩ :=
    parse_of_comparison "Infinity]".toList (by decide) rfl
  have hoverflow : Selector.parse ⟨false⟩ "[a=1e999]" =
      .ok ⟨"", [⟨["a"], by simp, .equals (.number (.infinite false)), true⟩]⟩ :=
    parse_of_comparison "1e999]".toList (by decide) rfl
  exact ⟨_, _, hinfinity, hoverflow, rfl, ((Selector.text_eq_iff hinfinity hoverflow).2 rfl).2 rfl⟩

/-- The text of an infinite operand does not tell its sign. -/
theorem Selector.text_eq_negative_infinity :
    ∃ p q, Selector.parse ⟨false⟩ "[a=Infinity]" = .ok p ∧
      Selector.parse ⟨false⟩ "[a=-Infinity]" = .ok q ∧ p.toJson.text = q.toJson.text ∧
      (p == q) = false :=
  ⟨_, _, parse_of_comparison "Infinity]".toList (by decide) rfl,
    parse_of_comparison "-Infinity]".toList (by decide) rfl, rfl, by decide⟩

end ComponentQuery
