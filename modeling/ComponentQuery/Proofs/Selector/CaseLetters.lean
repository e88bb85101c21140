import Mathlib.Logic.Relation
import ComponentQuery.Proofs.Matching.CaseFolding
import ComponentQuery.Proofs.Query.Accounting
import ComponentQuery.Proofs.Selector.Cuts
import ComponentQuery.Proofs.Selector.Extension
import ComponentQuery.Proofs.Selector.Locality
import ComponentQuery.Proofs.Selector.Printing

/-!
# Letters behind texts in quotation marks

A value in quotation marks that has no letter is compared with regard to case.  `InsertsLetter` adds
one that leaves case out of account, which is possible behind every such value
(`Grammar.Derives.exists_insertsLetter`).  What stands before the value, its `Front`, is derived in
one way only, and depends on the value by its first character only; so a text with a front is read
exactly if the clause of the value and what follows it are (`Reading.selector_front_iff`).

The step is `Reading.selector_of_insertsLetter`: with one more letter the text is read as before,
but for one predicate, which no longer takes account of case.  The run is
`Reading.select_subset_of_insertsLetters`, for any number of letters.

The main result is `Engine.queryAll_insertsLetters`: leaving case out of account never makes a
predicate fail or a query lose an element, and then only the upper case of texts counts.
-/

namespace ComponentQuery

open Grammar

/-! ## Inserting a letter -/

namespace Grammar

/-- What stands before a value in a selector: a name and whole clauses, and then the path and the
operator of the clause that the value belongs to. -/
structure Front where
  name : List Char
  clauses : List Clause
  first : Part
  more : List Part
  op : Operator

/-- The clause of a front, with a value. -/
def Front.clause (front : Front) (l : Literal) : Clause :=
  ⟨front.first, front.more, some (front.op, l)⟩

/-- A front and the gap behind it, and then a value. -/
inductive DerivesFront : List Char → Front → List Char → Prop where
  | intro {cs₁ cs₂ cs₃ cs₄ cs₅ cs₆ cs₇ cs₈ rest : List Char} {front : Front}
      (h₁ : Gap cs₁ (front.name ++ cs₂)) (h₂ : IsRun Reading.isNameChar front.name cs₂)
      (h₃ : Gap cs₂ cs₃) (h₄ : DerivesLeading cs₃ front.clauses ('[' :: cs₄)) (h₅ : Gap cs₄ cs₅)
      (h₆ : DerivesPart cs₅ front.first cs₆) (h₇ : DerivesMore cs₆ front.more cs₇)
      (h₈ : DerivesOperator cs₇ front.op cs₈) (h₉ : Gap cs₈ rest) : DerivesFront cs₁ front rest

/-- A text in quotation marks as written, with blanks behind it. -/
inductive QuotedBlanks : List Char → List Char → Prop where
  | intro {mark : Char} {body text blanks : List Char} (hm : QuotationMark mark)
      (hs : Spelling mark body text) (hblanks : ∀ c ∈ blanks, isBlank c = true) :
      QuotedBlanks (mark :: (body ++ mark :: blanks)) text

/-- Behind a value in quotation marks, which the closing bracket follows, a letter is inserted that
leaves case out of account. -/
inductive InsertsLetter : List Char → List Char → Prop where
  | intro {before value text after rest : List Char} {letter : Char} {front : Front}
      (hfront : DerivesFront (before ++ (value ++ after)) front (value ++ after))
      (hquoted : QuotedBlanks value text) (hend : Gap after (']' :: rest))
      (hl : CaseLetter letter false) :
      InsertsLetter (before ++ (value ++ after)) (before ++ (value ++ letter :: after))

/-- A front depends on the value behind it by its first character only. -/
lemma local_front (front : Front) : Local (DerivesFront · front ·) := by
  refine (local_gap.comp ((local_run Reading.isNameChar front.name).comp (local_gap.comp
    ((local_leading front.clauses).comp ((closed_char '[').local.comp (local_gap.comp
      ((local_part front.first).comp ((local_more front.more).comp
        ((closed_operator front.op).local.comp local_gap))))))))).of_iff fun cs rest => ⟨?_, ?_⟩
  · rintro ⟨h₁, h₂, h₃, h₄, h₅, h₆, h₇, h₈, h₉⟩
    exact ⟨_, h₁, _, ⟨rfl, h₂⟩, _, h₃, _, h₄, _, rfl, _, h₅, _, h₆, _, h₇, _, h₈, h₉⟩
  · rintro ⟨_, h₁, _, ⟨rfl, h₂⟩, _, h₃, _, h₄, _, rfl, _, h₅, _, h₆, _, h₇, _, h₈, h₉⟩
    exact .intro h₁ h₂ h₃ h₄ h₅ h₆ h₇ h₈ h₉

lemma DerivesFront.exists_derivesClause {cs start mid rest : List Char} {front : Front}
    {l : Literal} (h : DerivesFront cs front start) (hl : DerivesLiteral start l mid)
    (hend : Gap mid (']' :: rest)) :
    ∃ left leading last, Gap cs (front.name ++ left) ∧
      IsRun Reading.isNameChar front.name left ∧ Gap left leading ∧
      DerivesLeading leading front.clauses last ∧ DerivesClause last (front.clause l) rest := by
  obtain ⟨h₁, h₂, h₃, h₄, h₅, h₆, h₇, h₈, h₉⟩ := h
  exact ⟨_, _, _, h₁, h₂, h₃, h₄, .intro h₅ h₆ h₇ (.present h₈ h₉ hl hend)⟩

/-- The clauses before any of the clauses of a text lead up to it. -/
lemma DerivesClauses.exists_derivesLeading {cs : List Char} {leading behind : List Clause}
    {clause : Clause} (h : DerivesClauses cs (leading ++ clause :: behind)) :
    ∃ mid rest, DerivesLeading cs leading mid ∧ DerivesClause mid clause rest := by
  induction leading generalizing cs with
  | nil =>
    cases h with
    | cons h₁ => exact ⟨_, _, .nil cs, h₁⟩
  | cons _ leading ih =>
    cases h with
    | cons h₁ h₂ h₃ =>
      obtain ⟨mid, rest, hleading, hclause⟩ := ih h₃
      exact ⟨mid, rest, .cons h₁ h₂ hleading, hclause⟩

/-- Before each value of a selector there is a front. -/
lemma Derives.exists_front {cs : List Char} {tree : Tree} {clause : Clause} {op : Operator}
    {l : Literal} (h : Derives cs tree) (hclause : clause ∈ tree.clauses)
    (hl : clause.comparison = some (op, l)) :
    ∃ before front start mid rest, cs = before ++ start ∧ DerivesFront cs front start ∧
      front.clause l = clause ∧ DerivesLiteral start l mid ∧ Gap mid (']' :: rest) := by
  obtain ⟨h₁, h₂, h₃, h₄, -⟩ := h
  obtain ⟨leading, behind, rfl⟩ := List.append_of_mem hclause
  obtain ⟨_, rest, hleading, hlast⟩ := h₄.exists_derivesLeading
  obtain ⟨h₅, h₆, h₇, hcomparison⟩ := hlast
  obtain rfl := hl
  cases hcomparison with
  | present h₈ h₉ hliteral hend =>
    have hfront : DerivesFront cs ⟨_, leading, _, _, op⟩ _ :=
      .intro h₁ h₂ h₃ hleading h₅ h₆ h₇ h₈ h₉
    obtain ⟨before, hcs, -⟩ := local_front _ _ _ hfront
    exact ⟨before, _, _, _, rest, hcs, hfront, rfl, hliteral, hend⟩

/-- **A letter can be inserted behind every value in quotation marks**, unless it has one. -/
theorem Derives.exists_insertsLetter {cs text : List Char} {tree : Tree} {clause : Clause}
    {op : Operator} (h : Derives cs tree) (hclause : clause ∈ tree.clauses)
    (hvalue : clause.comparison = some (op, .quoted text true)) :
    ∃ before value after front, cs = before ++ (value ++ after) ∧
      DerivesFront cs front (value ++ after) ∧ front.clause (.quoted text true) = clause ∧
      QuotedBlanks value text ∧
      (InsertsLetter cs (before ++ (value ++ 'i' :: after)) ∨
        ∃ letter rest, CaseLetter letter true ∧ after = letter :: rest) := by
  obtain ⟨before, front, start, mid, rest, rfl, hfront, hsame, hliteral, hend⟩ :=
    h.exists_front hclause hvalue
  cases hliteral with
  | @quoted mark body _ _ hm hs =>
    have hquoted : QuotedBlanks (mark :: (body ++ mark :: [])) text := .intro hm hs (by simp)
    have hstart : mark :: (body ++ mark :: mid) = (mark :: (body ++ mark :: [])) ++ mid := by simp
    rw [hstart] at hfront ⊢
    exact ⟨before, _, mid, front, rfl, hfront, hsame, hquoted,
      .inl (.intro hfront hquoted hend (.insensitive (.inl rfl)))⟩
  | @lettered mark letter body _ _ _ _ hm hs hg hl =>
    cases hg with | @intro blanks _ hrun =>
    have hquoted : QuotedBlanks (mark :: (body ++ mark :: blanks)) text := .intro hm hs hrun.all
    have hstart : mark :: (body ++ mark :: (blanks ++ letter :: mid)) =
        (mark :: (body ++ mark :: blanks)) ++ letter :: mid := by simp
    rw [hstart] at hfront ⊢
    exact ⟨before, _, letter :: mid, front, rfl, hfront, hsame, hquoted,
      .inr ⟨letter, mid, hl, rfl⟩⟩

variable {value text after rest : List Char}

lemma QuotedBlanks.ne_nil (h : QuotedBlanks value text) : value ≠ [] := by
  cases h
  exact List.cons_ne_nil _ _

/-- Before the closing bracket, the value has no letter. -/
lemma QuotedBlanks.derivesLiteral (h : QuotedBlanks value text) (hend : Gap after (']' :: rest)) :
    ∃ mid, DerivesLiteral (value ++ after) (.quoted text true) mid ∧ Gap mid (']' :: rest) := by
  obtain ⟨hm, hs, hblanks⟩ := h
  obtain ⟨hrun⟩ := hend
  have hgap := gap_append (List.forall_mem_append.2 ⟨hblanks, hrun.all⟩) hrun.maximal
  rw [List.append_assoc] at hgap
  exact ⟨_, by simpa using DerivesLiteral.quoted hm hs, hgap⟩

lemma QuotedBlanks.derivesLiteral_letter (h : QuotedBlanks value text) {letter : Char}
    {caseSensitive : Bool} (hl : CaseLetter letter caseSensitive) (after : List Char) :
    DerivesLiteral (value ++ letter :: after) (.quoted text caseSensitive) after := by
  obtain ⟨hm, hs, hblanks⟩ := h
  have hblank : isBlank letter = false := Printing.isBlank_of_caseLetter hl
  have hgap : Gap (_ ++ letter :: after) (letter :: after) :=
    gap_append hblanks (by simpa using hblank)
  simpa using DerivesLiteral.lettered hm hs hgap hl

/-- With the letter, the clause stands for the predicate that takes no account of case. -/
lemma Clause.Denotes.insensitive {config : Config} {front : Front} {caseSensitive : Bool}
    {p : Predicate} (h : (front.clause (.quoted text caseSensitive)).Denotes config p) :
    p.Widened p.insensitive ∧ (front.clause (.quoted text false)).Denotes config p.insensitive := by
  obtain ⟨hpath, hcomparison⟩ := h
  obtain ⟨path, hne, c, b⟩ := p
  cases hcomparison with
  | present hv hc =>
    cases hv
    exact ⟨.insensitive (Printing.operand?_of_makes hc).2, hpath, .present (.text _ _) hc⟩

end Grammar

namespace Reading

variable {config : Config} {cs cs' : List Char} {s : Selector}

/-! ## Reading what has a front -/

/-- The leading clauses that are derived are those that are read. -/
lemma clauses_of_leading {written : List Clause} {rest : List Char} {ps : List Predicate}
    (h : DerivesLeading cs written rest) (hread : clauses config cs = .ok (ps, [])) :
    ∃ ps₁ ps₂, ps = ps₁ ++ ps₂ ∧ List.Forall₂ (Clause.Denotes config) written ps₁ ∧
      clauses config rest = .ok (ps₂, []) := by
  induction h generalizing ps with
  | nil => exact ⟨[], ps, rfl, .nil, hread⟩
  | cons h₁ h₂ _ ih =>
    obtain ⟨p, ps, rfl, hp, hread⟩ := clauses_of_derivesClause h₁ hread
    rw [clauses_of_gap h₂] at hread
    obtain ⟨ps₁, ps₂, rfl, hps₁, hread⟩ := ih hread
    exact ⟨p :: ps₁, ps₂, rfl, .cons hp hps₁, hread⟩

/-- **A text with a front** is read exactly if the clauses of the front stand for predicates, and so
does the clause with the value, and the clauses behind it are read. -/
lemma selector_front_iff {front : Front} {start mid rest : List Char} {l : Literal}
    (h : DerivesFront cs front start) (hl : DerivesLiteral start l mid)
    (hend : Gap mid (']' :: rest)) :
    selector config cs = .ok s ↔
      ∃ ps p ps', s = ⟨String.ofList front.name, ps ++ p :: ps'⟩ ∧
        List.Forall₂ (Clause.Denotes config) front.clauses ps ∧
        (front.clause l).Denotes config p ∧ clauses config rest = .ok (ps', []) := by
  obtain ⟨left, leading, last, h₁, h₂, h₃, h₄, h₅⟩ := h.exists_derivesClause hl hend
  have hname : run isNameChar (skipBlanks cs) = (front.name, left) := by
    rw [skipBlanks_eq_iff.2 h₁]
    exact run_append_eq h₂
  rw [selector_iff, hname]
  constructor
  · obtain ⟨name, predicates⟩ := s
    rintro ⟨left', hleft, hread, -⟩
    obtain ⟨hfront, rfl⟩ := Prod.mk.inj hleft
    rw [clauses_of_gap h₃] at hread
    obtain ⟨ps, ps', rfl, hps, hread⟩ := clauses_of_leading h₄ hread
    obtain ⟨p, ps', rfl, hp, hread⟩ := clauses_of_derivesClause h₅ hread
    exact ⟨ps, p, ps', by rw [hfront, String.ofList_toList], hps, hp, hread⟩
  · rintro ⟨ps, p, ps', rfl, hps, hp, hread⟩
    refine ⟨left, by rw [String.toList_ofList], ?_, by simp⟩
    obtain ⟨start, rfl⟩ := exists_cons_of_derivesClause h₅
    have hclause := clause_eq_ok_iff.2 ⟨_, h₅, hp⟩
    have hlast := clauses_cons_iff.2 ⟨_, _, skipBlanks_cons (by decide) start, hclause, hread⟩
    rw [clauses_of_gap h₃, clauses_of_derivesLeading h₄ hps, hlast]
    rfl

/-! ## Reading with more letters -/

/-- **One more letter.**  The text is read as before, but for one predicate, which takes no account
of case any more. -/
theorem selector_of_insertsLetter (h : InsertsLetter cs cs') (hs : selector config cs = .ok s) :
    ∃ t, selector config cs' = .ok t ∧ s.Widened t := by
  cases h with
  | @intro before value text after rest letter front hfront hquoted hend hl =>
    obtain ⟨mid, hliteral, hmid⟩ := hquoted.derivesLiteral hend
    obtain ⟨ps, p, ps', rfl, hps, hp, hread⟩ := (selector_front_iff hfront hliteral hmid).1 hs
    obtain ⟨hwidened, hinsensitive⟩ := hp.insensitive
    have hhead : (value ++ letter :: after).head? = (value ++ after).head? := by
      rw [List.head?_append_of_ne_nil _ hquoted.ne_nil,
        List.head?_append_of_ne_nil _ hquoted.ne_nil]
    have hfront' := (local_front front).congr hfront hhead
    have hletter := hquoted.derivesLiteral_letter hl after
    refine ⟨_, (selector_front_iff hfront' hletter hend).2
      ⟨ps, p.insensitive, ps', rfl, hps, hinsensitive, hread⟩, rfl, ?_⟩
    have hsame : ∀ qs : List Predicate, List.Forall₂ Predicate.Widened qs qs :=
      fun qs => List.forall₂_same.2 fun q _ => .same q
    exact List.rel_append (hsame ps) (.cons hwidened (hsame ps'))

variable {ε : Type} [DecidableEq ε]

/-- **Any number of letters.**  The text is read, and no element is selected less. -/
theorem select_subset_of_insertsLetters (h : Relation.ReflTransGen InsertsLetter cs cs')
    (hs : selector config cs = .ok s) :
    ∃ t, selector config cs' = .ok t ∧
      ∀ records : List (Record ε), s.select records ⊆ t.select records := by
  induction h with
  | refl => exact ⟨s, hs, fun _ => List.Subset.refl _⟩
  | tail _ hstep ih =>
    obtain ⟨t, ht, hsubset⟩ := ih
    obtain ⟨u, hu, hwidened⟩ := selector_of_insertsLetter hstep ht
    exact ⟨u, hu, fun records => List.Subset.trans (hsubset records) (hwidened.select_subset _)⟩

end Reading

/-! ## Queries -/

namespace Engine

variable {σ ε : Type} [DecidableEq ε] {text text' : String}

/-- With more letters, a text selects no less among given records. -/
lemma filter_insertsLetters {engine : Engine}
    (h : Relation.ReflTransGen InsertsLetter text.toList text'.toList) {records : List (Record ε)}
    {es : List ε} (hes : (engine.filter text records).value = .ok es) :
    ∃ es', (engine.filter text' records).value = .ok es' ∧ es ⊆ es' := by
  cases hs : Selector.parse engine.config text with
  | error e =>
    rw [filter_of_error hs] at hes
    simp at hes
  | ok s =>
    obtain ⟨t, ht, hsubset⟩ : ∃ t, Reading.selector engine.config text'.toList = .ok t ∧
        ∀ records : List (Record ε), s.select records ⊆ t.select records :=
      Reading.select_subset_of_insertsLetters h (Selector.parse_eq_ok_iff.1 hs)
    rw [filter_of_ok hs] at hes
    obtain rfl := Except.ok.inj hes
    refine ⟨t.select records, ?_, hsubset records⟩
    rw [filter_of_ok (Selector.parse_eq_ok_iff.2 ht)]

/-- **Leaving case out of account only widens, and then only the upper case counts.**  A predicate
that compares with a text goes on to hold without regard to case.  Without it, predicates hold of
the same values if their texts, and those of the values, are the same in upper case; in particular a
text and its upper case go together.  So if letters are inserted behind values in quotation marks,
no element is lost, whether the records are given or collected. -/
theorem queryAll_insertsLetters :
    (∀ (p : Predicate) (v : String) (subject : Option Shape),
      p.comparison.operand? = some (.text v) → p.holds subject = true →
        p.insensitive.holds subject = true) ∧
    (∀ (p q : Predicate) (subject subject' : Option Shape),
      p.comparison.upperCase = q.comparison.upperCase →
        subject.map Shape.upperCase = subject'.map Shape.upperCase →
          p.insensitive.holds subject = q.insensitive.holds subject') ∧
    (∀ (p : Predicate) (subject : Option Shape),
      p.insensitive.holds (subject.map Shape.upperCase) = p.insensitive.holds subject) ∧
    ∀ (engine : Engine) (text text' : String),
      Relation.ReflTransGen InsertsLetter text.toList text'.toList →
        (∀ (records : List (Record ε)) (es : List ε),
          (engine.filter text records).value = .ok es →
            ∃ es', (engine.filter text' records).value = .ok es' ∧ es ⊆ es') ∧
        ∀ (collect : Collector σ ε) (world : σ) (es : List ε),
          (engine.queryAll collect world text).1.value = .ok es →
            ∃ es', (engine.queryAll collect world text').1.value = .ok es' ∧ es ⊆ es' := by
  have hupper : ∀ (p q : Predicate) (subject subject' : Option Shape),
      p.comparison.upperCase = q.comparison.upperCase →
        subject.map Shape.upperCase = subject'.map Shape.upperCase →
          p.insensitive.holds subject = q.insensitive.holds subject' := by
    intro p q subject subject' hcomparison hsubject
    rw [← p.insensitive_holds_upperCase, ← q.insensitive_holds_upperCase, hsubject]
    simp only [Predicate.holds, Predicate.insensitive, hcomparison]
  refine ⟨fun p v subject hv h => Predicate.holds_insensitive hv h, hupper, fun p subject => ?_,
    fun engine text text' h => ⟨fun records es => filter_insertsLetters h, ?_⟩⟩
  · refine hupper p p _ _ rfl ?_
    rw [Option.map_map]
    exact congrArg (Option.map · subject) (funext Shape.upperCase_upperCase)
  · intro collect world es hes
    rw [queryAll_eq_filter] at hes ⊢
    exact filter_insertsLetters h hes

/-- With a letter behind it, the sharp s is compared as two letters, and so another record may be
accepted. -/
theorem queryAll_insertsLetters_sharp_s :
    let p : Predicate := ⟨["a"], List.cons_ne_nil _ _, .equals (.text "ß"), true⟩
    let records : List (Record Nat) :=
      [⟨none, some (.object [("a", .string "SS")]), 0⟩,
        ⟨none, some (.object [("a", .string "ß")]), 1⟩]
    p.insensitive.holds (some (.text "ß")) = true ∧
      p.insensitive.holds (some (.text "SS")) = p.insensitive.holds (some (.text "ß")) ∧
      Relation.ReflTransGen InsertsLetter "[a='ß']".toList "[a='ß'i]".toList ∧
      (filter ⟨⟨false⟩⟩ "[a='ß']" records).value = .ok [1] ∧
      ∃ es, (filter ⟨⟨false⟩⟩ "[a='ß'i]" records).value = .ok es ∧ [1] ⊆ es := by
  intro p records
  have hself : ∀ {c : Char} {cs : List Char}, isBlank c = false → Gap (c :: cs) (c :: cs) :=
    fun hc => gap_self (by simpa using hc)
  have hend : Gap [']'] [']'] := hself rfl
  have hfirst : DerivesPart (['a'] ++ '=' :: (['\'', 'ß', '\''] ++ [']'])) (.bare ['a'])
      ('=' :: (['\'', 'ß', '\''] ++ [']'])) :=
    .bare (List.cons_ne_nil _ _) (.before_cons (List.forall_mem_singleton.2 rfl) rfl)
  have hfront : DerivesFront (['[', 'a', '='] ++ (['\'', 'ß', '\''] ++ [']']))
      ⟨[], [], .bare ['a'], [], .equals⟩ (['\'', 'ß', '\''] ++ [']']) :=
    .intro (hself rfl) (.before_cons (by simp) rfl) (hself rfl) (.nil _) (hself rfl) hfirst
      (.nil (hself rfl)) (.equals _) (hself rfl)
  have hspelling : Spelling '\'' ['ß'] ['ß'] := .plain (by decide) (by decide) .nil
  have hquoted : QuotedBlanks ('\'' :: (['ß'] ++ '\'' :: [])) ['ß'] :=
    .intro .single hspelling (by simp)
  have hstep := InsertsLetter.intro hfront hquoted hend (CaseLetter.insensitive (.inl rfl))
  have htext : "[a='ß']".toList = ['[', 'a', '='] ++ (['\'', 'ß', '\''] ++ [']']) := by decide
  have hletter : "[a='ß'i]".toList = ['[', 'a', '='] ++ (['\'', 'ß', '\''] ++ ['i', ']']) := by
    decide
  rw [← htext, ← hletter] at hstep
  obtain ⟨mid, hliteral, hmid⟩ := hquoted.derivesLiteral hend
  have hparse : Selector.parse ⟨false⟩ "[a='ß']" = .ok ⟨"", [p]⟩ := by
    rw [Selector.parse_eq_ok_iff, htext, Reading.selector_front_iff hfront hliteral hmid]
    exact ⟨[], p, [], rfl, .nil, ⟨rfl, .present (.text _ _) (.equals _)⟩,
      Reading.clauses_nil_iff.2 rfl⟩
  have hvalue : (filter ⟨⟨false⟩⟩ "[a='ß']" records).value = .ok [1] := by
    rw [filter_of_ok hparse]
    exact congrArg Except.ok (by decide +kernel)
  obtain ⟨hwidens, hupper, -, hquery⟩ := @queryAll_insertsLetters Unit Nat _
  have hholds : p.holds (some (.text "ß")) = true := by decide +kernel
  have hsame : (some (Shape.text "SS")).map Shape.upperCase =
      (some (Shape.text "ß")).map Shape.upperCase := by
    have hcase : Unicode.upperCase "SS".toList = Unicode.upperCase "ß".toList := by decide +kernel
    simp only [Option.map_some, Shape.upperCase, hcase]
  exact ⟨hwidens p "ß" _ rfl hholds, hupper p p _ _ rfl hsame, .single hstep, hvalue,
    (hquery _ _ _ (.single hstep)).1 _ _ hvalue⟩

end Engine

end ComponentQuery
