import ComponentQuery.Proofs.Selector.Grammar
import ComponentQuery.Selector.Reading

/-!
# The reader of selectors is exact

Each function of the reader takes what the grammar derives, and nothing else.  For a reader `f` of a
piece the lemma `f_eq_ok_iff` says when `f cs = .ok (x, rest)`: if and only if the grammar derives
some piece from `cs` with `rest` after it, and the piece denotes `x`.

The functions look one character ahead and never go back, while the grammar lets each piece end
where it likes.  The two agree since the pieces are maximal runs or end in a character of their
own, and since no two of the rules that may apply at one place begin with the same character.
Where a rule is chosen by what follows (the letter after a text, the dot after a part), the lemma
says what follows.

The main result is `parse_eq_ok_iff_derives`.
-/

namespace ComponentQuery

open Grammar

namespace Reading

/-! ## Tokens -/

/-- A blank is a part of names and tokens exactly if it is beyond ASCII. -/
lemma isNameChar_isTokenChar_of_isBlank {c : Char} (h : isBlank c = true) :
    isNameChar c = decide (0x80 ≤ c.toNat) ∧
      isTokenChar c = decide (0x80 ≤ c.toNat) := by
  have hall : blanks.Forall fun c => isNameChar c = decide (0x80 ≤ c.toNat) ∧
      isTokenChar c = decide (0x80 ≤ c.toNat) := by decide
  exact List.forall_iff_forall_mem.1 hall c (List.contains_iff_mem.1 h)

/-- Cutting a run off gives the one run at the front of the text. -/
lemma run_eq_iff {p : Char → Bool} {cs r rest : List Char} :
    run p cs = (r, rest) ↔ cs = r ++ rest ∧ IsRun p r rest := by
  constructor
  · rintro h
    obtain ⟨rfl, rfl⟩ := Prod.mk.inj h
    exact ⟨List.takeWhile_append_dropWhile.symm, isRun_takeWhile p cs⟩
  · rintro ⟨rfl, h⟩
    exact Prod.ext h.takeWhile_eq h.dropWhile_eq

lemma head?_ne_of_forall {cs : List Char} {c : Char} (h : ∀ rest, cs = c :: rest → False) :
    cs.head? ≠ some c := by
  intro hhead
  obtain ⟨rest, hrest⟩ := List.head?_eq_some_iff.1 hhead
  exact h rest hrest

lemma run_append_eq {p : Char → Bool} {r rest : List Char} (h : IsRun p r rest) :
    run p (r ++ rest) = (r, rest) :=
  run_eq_iff.2 ⟨rfl, h⟩

lemma exists_run (p : Char → Bool) (cs : List Char) :
    ∃ r rest, cs = r ++ rest ∧ IsRun p r rest ∧ run p cs = (r, rest) :=
  ⟨_, _, (run_append p cs).symm, isRun_takeWhile p cs, rfl⟩

/-- Reading a text up to a mark takes a spelling of it and the mark. -/
lemma quoted_eq_ok_iff {mark : Char} (hmark : mark ≠ '\\') {cs text rest : List Char} :
    quoted mark cs = .ok (text, rest) ↔
      ∃ body, cs = body ++ mark :: rest ∧ Spelling mark body text := by
  constructor
  · intro h
    -- By the cases of the reader: the mark ends the text, a backslash takes one more character.
    fun_induction quoted mark cs generalizing text rest with
    | case1 => simp [unexpected] at h
    | case2 more =>
      obtain ⟨rfl, rfl⟩ := Prod.mk.inj (Except.ok.inj h)
      exact ⟨[], rfl, .nil⟩
    | case3 => simp [unexpected] at h
    | case4 => simp at h
    | case5 e cs t r hr _ ih =>
      obtain ⟨rfl, rfl⟩ := Prod.mk.inj (Except.ok.inj h)
      obtain ⟨body, rfl, hs⟩ := ih hr
      exact ⟨'\\' :: e :: body, rfl, .escaped e hs⟩
    | case6 => simp at h
    | case7 c cs hm hb t r hr ih =>
      obtain ⟨rfl, rfl⟩ := Prod.mk.inj (Except.ok.inj h)
      obtain ⟨body, rfl, hs⟩ := ih hr
      exact ⟨c :: body, rfl, .plain hm hb hs⟩
  · rintro ⟨body, rfl, hs⟩
    induction hs with
    | nil => unfold quoted; simp
    | escaped c _ ih => simp [quoted, hmark.symm, ih]
    | plain hm hb _ ih => unfold quoted; simp [hm, hb, ih]

lemma regexSource_eq_ok_iff {inClass : Bool} {cs source rest : List Char} :
    regexSource inClass cs = .ok (source, rest) ↔
      cs = source ++ '/' :: rest ∧ RegexBody inClass source := by
  constructor
  · intro h
    fun_induction regexSource inClass cs generalizing source rest with
    | case1 => simp [unexpected] at h
    | case2 => simp [unexpected] at h
    | case3 => simp at h
    | case4 _ e cs s r hr ih =>
      obtain ⟨rfl, rfl⟩ := Prod.mk.inj (Except.ok.inj h)
      obtain ⟨rfl, hs⟩ := ih hr
      exact ⟨rfl, .escaped e hs⟩
    | case5 inClass c more hb hc =>
      obtain ⟨rfl, rfl⟩ := hc
      obtain ⟨rfl, rfl⟩ := Prod.mk.inj (Except.ok.inj h)
      exact ⟨rfl, .nil⟩
    | case6 => simp at h
    | case7 inClass c cs hb hc s r hr ih =>
      obtain ⟨rfl, rfl⟩ := Prod.mk.inj (Except.ok.inj h)
      obtain ⟨rfl, hs⟩ := ih hr
      refine ⟨rfl, ?_⟩
      -- The character may open a class or close the one that is open; any other leaves it as it is.
      cases inClass with
      | true =>
        by_cases hclose : c = ']'
        · subst hclose
          exact .closing (by simpa using hs)
        · exact .inside (by simpa [hclose] using hb) (by simpa [hclose] using hs)
      | false =>
        by_cases hopen : c = '['
        · subst hopen
          exact .opening (by simpa using hs)
        · exact .outside (by simp_all) (by simpa [hopen] using hs)
  · rintro ⟨rfl, hs⟩
    induction hs with
    | nil => simp [regexSource]
    | escaped c _ ih => simp [regexSource, ih]
    | opening _ ih => simp [regexSource, ih]
    | closing _ ih => simp [regexSource, ih]
    | inside hc _ ih =>
      obtain ⟨hb, hclose⟩ : _ ≠ '\\' ∧ _ ≠ ']' := by simpa using hc
      simp [regexSource, hclose, ih]
    | outside hc _ ih =>
      obtain ⟨hb, hopen, hslash⟩ : _ ≠ '\\' ∧ _ ≠ '[' ∧ _ ≠ '/' := by simpa using hc
      simp [regexSource, hopen, hslash, ih]

/-- Reading a regular expression behind its first slash takes a source, a slash and flags that
compile. -/
lemma regexLiteral_eq_ok_iff {cs rest : List Char} {r : Regex} :
    regexLiteral cs = .ok (r, rest) ↔
      ∃ source flags, cs = source ++ '/' :: (flags ++ rest) ∧ RegexBody false source ∧
        IsRun Regex.isFlag flags rest ∧
        Regex.compile (String.ofList source) (String.ofList flags) = .ok r := by
  constructor
  · fun_cases regexLiteral cs with
    | case3 source left hs flags left' hflags r' hcompile =>
      intro h
      obtain ⟨rfl, rfl⟩ := Prod.mk.inj (Except.ok.inj h)
      obtain ⟨rfl, hbody⟩ := regexSource_eq_ok_iff.1 hs
      obtain ⟨rfl, hrun⟩ := run_eq_iff.1 hflags
      exact ⟨source, flags, rfl, hbody, hrun, hcompile⟩
    | _ => simp
  · rintro ⟨source, flags, rfl, hbody, hrun, hcompile⟩
    simp only [regexLiteral, regexSource_eq_ok_iff.2 ⟨rfl, hbody⟩, run_append_eq hrun, hcompile]

/-! ## Paths -/

lemma isBlank_of_quotationMark {mark : Char} (h : QuotationMark mark) : isBlank mark = false := by
  cases h <;> rfl

lemma ne_backslash_of_quotationMark {mark : Char} (h : QuotationMark mark) : mark ≠ '\\' := by
  cases h <;> decide

/-- The characters of a part behind its gap. -/
def partText (cs : List Char) : Reading (List Char) :=
  match cs with
  | '"' :: rest => quoted '"' rest
  | '\'' :: rest => quoted '\'' rest
  | rest => .ok (run isNameChar rest)

lemma partText_mark {mark : Char} (h : QuotationMark mark) (cs : List Char) :
    partText (mark :: cs) = quoted mark cs := by
  cases h <;> rfl

lemma partText_of_ne_mark {cs : List Char} (h : ∀ c ∈ cs.head?, ¬ QuotationMark c) :
    partText cs = .ok (run isNameChar cs) := by
  fun_cases partText cs with
  | case1 => exact absurd .double (h _ rfl)
  | case2 => exact absurd .single (h _ rfl)
  | case3 => rfl

/-- The characters of a part are those of the part that the grammar derives, unless there
are none. -/
lemma partText_eq_ok_iff {cs text rest : List Char} (hne : text ≠ []) :
    partText cs = .ok (text, rest) ↔ ∃ part, DerivesPart cs part rest ∧ part.text = text := by
  constructor
  · have hquoted : ∀ {mark : Char} {cs : List Char}, QuotationMark mark →
        quoted mark cs = .ok (text, rest) →
        ∃ part, DerivesPart (mark :: cs) part rest ∧ part.text = text := by
      intro mark cs hm hq
      obtain ⟨body, rfl, hs⟩ := (quoted_eq_ok_iff (ne_backslash_of_quotationMark hm)).1 hq
      exact ⟨.quoted text, .quoted hm hs hne, rfl⟩
    fun_cases partText cs with
    | case1 cs => exact hquoted .double
    | case2 cs => exact hquoted .single
    | case3 =>
      intro h
      obtain ⟨rfl, hrun⟩ := run_eq_iff.1 (Except.ok.inj h)
      exact ⟨.bare text, .bare hne hrun, rfl⟩
  · rintro ⟨part, hd, rfl⟩
    cases hd with
    | @bare name _ hname hrun =>
      -- A name begins with no mark, since marks are no name characters.
      have hstart : ∀ c ∈ (name ++ rest).head?, ¬ QuotationMark c := by
        intro c hc hm
        rw [List.head?_append_of_ne_nil _ hname] at hc
        have hname : isNameChar c = true := hrun.all c (List.mem_of_mem_head? hc)
        cases hm <;> revert hname <;> decide
      rw [partText_of_ne_mark hstart, run_append_eq hrun]
      rfl
    | quoted hm hs =>
      rw [partText_mark hm]
      exact (quoted_eq_ok_iff (ne_backslash_of_quotationMark hm)).2 ⟨_, rfl, hs⟩

/-- A part of a path must have characters. -/
def partOfText : Reading (List Char) → Reading String
  | .error f => .error f
  | .ok ([], rest) => unexpected .propertyPath rest
  | .ok (text, rest) => .ok (String.ofList text, rest)

lemma segment_eq_ok_iff {cs rest : List Char} {s : String} :
    segment cs = .ok (s, rest) ↔
      ∃ cs' part, Gap cs cs' ∧ DerivesPart cs' part rest ∧ s = String.ofList part.text := by
  have hread : segment cs = partOfText (partText (skipBlanks cs)) := rfl
  rw [hread]
  constructor
  · generalize hp : partText (skipBlanks cs) = r
    fun_cases partOfText r with
    | case1 => simp
    | case2 => simp [unexpected]
    | case3 text left hne =>
      intro h
      obtain ⟨rfl, rfl⟩ := Prod.mk.inj (Except.ok.inj h)
      obtain ⟨part, hd, rfl⟩ := (partText_eq_ok_iff hne).1 hp
      exact ⟨_, part, gap_skipBlanks cs, hd, rfl⟩
  · rintro ⟨cs', part, hg, hd, rfl⟩
    have hne : part.text ≠ [] := by cases hd <;> assumption
    rw [skipBlanks_eq_iff.2 hg, (partText_eq_ok_iff hne).2 ⟨part, hd, rfl⟩]
    obtain ⟨c, text, htext⟩ := List.exists_cons_of_ne_nil hne
    rw [htext]
    rfl

lemma moreSegments_eq_ok_iff {cs rest : List Char} {path : List String} :
    moreSegments cs = .ok (path, rest) ↔
      ∃ more, DerivesMore cs more rest ∧ rest.head? ≠ some '.' ∧ path = pathOf more := by
  constructor
  · intro h
    fun_induction moreSegments cs generalizing path rest with
    | case1 => simp at h
    | case2 => simp at h
    | case3 cs cs' hdot s cs'' hs _ path' rest' hr ih =>
      obtain ⟨rfl, rfl⟩ := Prod.mk.inj (Except.ok.inj h)
      obtain ⟨more, hmore, hhead, rfl⟩ := ih hr
      obtain ⟨_, part, hg, hp, rfl⟩ := segment_eq_ok_iff.1 hs
      exact ⟨part :: more, .cons (skipBlanks_eq_iff.1 hdot) hg hp hmore, hhead, rfl⟩
    | case4 cs hdot =>
      obtain ⟨rfl, rfl⟩ := Prod.mk.inj (Except.ok.inj h)
      exact ⟨[], .nil (gap_skipBlanks cs), head?_ne_of_forall hdot, rfl⟩
  · rintro ⟨more, hmore, hhead, rfl⟩
    induction hmore with
    | nil hg =>
      rw [moreSegments_eq, skipBlanks_eq_iff.2 hg]
      split
      · simp at hhead
      · rfl
    | cons h₁ h₂ h₃ _ ih =>
      -- A dot and a part go on with the path, and the others follow by induction.
      have hs := segment_eq_ok_iff.2 ⟨_, _, h₂, h₃, rfl⟩
      rw [moreSegments_eq, skipBlanks_eq_iff.2 h₁]
      simp only [hs, ih hhead, pathOf, List.map_cons]

lemma moreSegments_of_no_dot {cs rest : List Char} (hg : Gap cs rest)
    (h : rest.head? ≠ some '.') : moreSegments cs = .ok ([], rest) :=
  moreSegments_eq_ok_iff.2 ⟨[], .nil hg, h, rfl⟩

/-! ## Operators -/

lemma operator_eq_ok_iff {cs rest : List Char} {op : Operator} :
    operator cs = .ok (op, rest) ↔ ∃ cs', Gap cs cs' ∧ DerivesOperator cs' op rest := by
  constructor
  · fun_cases operator cs with
    | case2 left hcs =>
      intro h
      obtain ⟨rfl, rfl⟩ := Prod.mk.inj (Except.ok.inj h)
      exact ⟨_, skipBlanks_eq_iff.1 hcs, .equals _⟩
    | case4 c _ r left hsign hcs =>
      intro h
      obtain ⟨rfl, rfl⟩ := Prod.mk.inj (Except.ok.inj h)
      rw [← TextRelation.sign_of_ofSign? hsign] at hcs
      exact ⟨_, skipBlanks_eq_iff.1 hcs, .relates r _⟩
    | _ => simp [unexpected]
  · rintro ⟨cs', hg, hop⟩
    unfold operator
    rw [skipBlanks_eq_iff.2 hg]
    cases hop with
    | equals => rfl
    | relates r =>
      cases r <;> rfl

/-! ## Values -/

lemma ne_of_numericLiteral {token text : List Char} {x : Binary64} (h : NumericLiteral token x)
    (htext : numericLiteral? text = none) : token ≠ text := by
  rintro rfl
  simp [numericLiteral?_eq_some_iff.2 h] at htext

lemma tokenOperand?_eq_some_iff {config : Config} {token : List Char} {v : Operand} :
    tokenOperand? config token = some v ↔ (Literal.token token).Denotes config v true := by
  constructor
  · fun_cases tokenOperand? config token with
    | case1 hempty =>
      intro h
      obtain rfl := Option.some.inj h
      subst hempty
      by_cases hmode : config.allowUnquotedStrings = true
      · rw [if_pos hmode]
        exact .string hmode (by decide) (by decide)
      · rw [if_neg hmode]
        exact .zero (eq_false_of_ne_true hmode)
    | case2 _ htrue =>
      intro h
      obtain rfl := Option.some.inj h
      exact htrue ▸ .true
    | case3 _ _ hfalse =>
      intro h
      obtain rfl := Option.some.inj h
      exact hfalse ▸ .false
    | case4 _ htrue hfalse hmode =>
      intro h
      obtain rfl := Option.some.inj h
      exact .string hmode htrue hfalse
    | case5 _ _ _ hmode =>
      intro h
      obtain ⟨x, hx, rfl⟩ := Option.map_eq_some_iff.1 h
      exact .number (eq_false_of_ne_true hmode) (numericLiteral?_eq_some_iff.1 hx)
  · rintro (_ | _ | _ | _ | hc | ⟨hc, hx⟩ | ⟨hc, ht, hf⟩)
    · rfl
    · rfl
    · simp [tokenOperand?, hc]
    · -- None of the words that have a meaning of their own is a number.
      have hempty : token ≠ [] := ne_of_numericLiteral hx rfl
      have htrue : token ≠ "true".toList := ne_of_numericLiteral hx rfl
      have hfalse : token ≠ "false".toList := ne_of_numericLiteral hx rfl
      unfold tokenOperand?
      rw [if_neg hempty, if_neg htrue, if_neg hfalse, if_neg (by simp [hc]),
        numericLiteral?_eq_some_iff.2 hx]
      rfl
    · by_cases hempty : token = []
      · simp [tokenOperand?, hempty, hc]
      · unfold tokenOperand?
        rw [if_neg hempty, if_neg ht, if_neg hf, if_pos hc]

lemma unquotedValue_eq_ok_iff {config : Config} {cs rest : List Char} {v : Operand} :
    unquotedValue config cs = .ok (v, rest) ↔
      ∃ token, cs = token ++ rest ∧ IsRun isTokenChar token rest ∧
        (Literal.token token).Denotes config v true := by
  constructor
  · fun_cases unquotedValue config cs with
    | case1 => simp [unexpected]
    | case2 token left hread v htoken =>
      intro h
      obtain ⟨rfl, rfl⟩ := Prod.mk.inj (Except.ok.inj h)
      obtain ⟨rfl, hrun⟩ := run_eq_iff.1 hread
      exact ⟨token, rfl, hrun, tokenOperand?_eq_some_iff.1 htoken⟩
  · rintro ⟨token, rfl, hrun, hv⟩
    simp only [unquotedValue, run_append_eq hrun, tokenOperand?_eq_some_iff.2 hv]

/-- Before a closing bracket, the letter after a text is there or it is not. -/
lemma caseLetter_iff {cs rest : List Char} {caseSensitive : Bool} :
    (∃ cs', caseLetter cs = (caseSensitive, cs') ∧ Gap cs' (']' :: rest)) ↔
      (caseSensitive = true ∧ Gap cs (']' :: rest)) ∨
        ∃ letter cs', Gap cs (letter :: cs') ∧ CaseLetter letter caseSensitive ∧
          Gap cs' (']' :: rest) := by
  constructor
  · rintro ⟨cs', h, hg⟩
    have hgap := gap_skipBlanks cs
    have hletter : ∀ {letter : Char} {b : Bool} {left : List Char}, skipBlanks cs = letter :: left →
        CaseLetter letter b → (b, left) = (caseSensitive, cs') →
        ∃ letter cs', Gap cs (letter :: cs') ∧ CaseLetter letter caseSensitive ∧
          Gap cs' (']' :: rest) := by
      rintro letter b left hcs hl ⟨⟩
      exact ⟨letter, _, hcs ▸ hgap, hl, hg⟩
    revert h
    fun_cases caseLetter cs with
    | case1 left hcs => exact fun h => .inr (hletter hcs (.insensitive (.inl rfl)) h)
    | case2 left hcs => exact fun h => .inr (hletter hcs (.insensitive (.inr rfl)) h)
    | case3 left hcs => exact fun h => .inr (hletter hcs (.sensitive (.inl rfl)) h)
    | case4 left hcs => exact fun h => .inr (hletter hcs (.sensitive (.inr rfl)) h)
    | case5 =>
      rintro ⟨⟩
      -- No letter has been taken, so that the gap before the bracket is all there is.
      rw [(gap_self hgap.head_not_blank).unique hg] at hgap
      exact .inl ⟨rfl, hgap⟩
  · rintro (⟨rfl, hg⟩ | ⟨letter, cs', hg, hl, hg'⟩)
    · refine ⟨']' :: rest, ?_, gap_self hg.head_not_blank⟩
      simp [caseLetter, skipBlanks_eq_iff.2 hg]
    · refine ⟨cs', ?_, hg'⟩
      rcases hl with hl | hl <;> rcases hl with rfl | rfl <;>
        simp only [caseLetter, skipBlanks_eq_iff.2 hg]

/-- What a value may begin with if it is a token and a closing bracket follows. -/
lemma head_of_token {token mid rest : List Char} (h : IsRun isTokenChar token mid)
    (hg : Gap mid (']' :: rest)) :
    ∃ c cs, token ++ mid = c :: cs ∧ (isTokenChar c = true ∨ isBlank c = true ∨ c = ']') := by
  cases token with
  | cons c token => exact ⟨c, _, rfl, .inl (h.all c (List.mem_cons_self ..))⟩
  | nil =>
    cases hg with
    | @intro blanks _ hrun =>
      cases blanks with
      | nil => exact ⟨']', _, rfl, .inr (.inr rfl)⟩
      | cons c blanks => exact ⟨c, _, rfl, .inr (.inl (hrun.all c (List.mem_cons_self ..)))⟩

/-- Reading a text in quotation marks with its letter takes such a value, if a closing bracket
follows. -/
lemma quotedValue_iff {mark : Char} (hm : QuotationMark mark) {cs rest : List Char} {v : Operand}
    {caseSensitive : Bool} :
    (∃ cs', quotedValue mark cs = .ok ((v, caseSensitive), cs') ∧ Gap cs' (']' :: rest)) ↔
      ∃ text mid, DerivesLiteral (mark :: cs) (.quoted text caseSensitive) mid ∧
        Gap mid (']' :: rest) ∧ v = .text (String.ofList text) := by
  have hmark := ne_backslash_of_quotationMark hm
  constructor
  · rintro ⟨cs', h, hg⟩
    revert h
    fun_cases quotedValue mark cs with
    | case1 => simp
    | case2 text left hq b left' hletter =>
      rintro ⟨⟩
      obtain ⟨body, rfl, hs⟩ := (quoted_eq_ok_iff hmark).1 hq
      rcases caseLetter_iff.1 ⟨_, hletter, hg⟩ with ⟨htrue, hg⟩ | ⟨letter, mid, hg, hl, hg'⟩
      · rw [htrue]
        exact ⟨text, left, .quoted hm hs, hg, rfl⟩
      · exact ⟨text, mid, .lettered hm hs hg hl, hg', rfl⟩
  · rintro ⟨text, mid, hd, hg, rfl⟩
    -- The two forms of the value differ only in what stands behind the mark that closes.
    suffices ∃ left, quoted mark cs = .ok (text, left) ∧
        ∃ cs', caseLetter left = (caseSensitive, cs') ∧ Gap cs' (']' :: rest) by
      obtain ⟨left, hq, cs', hl, hg'⟩ := this
      exact ⟨cs', by simp only [quotedValue, hq, hl], hg'⟩
    generalize hcs : mark :: cs = text' at hd
    cases hd with
    | quoted _ hs =>
      obtain ⟨rfl, rfl⟩ := List.cons.inj hcs
      exact ⟨mid, (quoted_eq_ok_iff hmark).2 ⟨_, rfl, hs⟩, caseLetter_iff.2 (.inl ⟨rfl, hg⟩)⟩
    | lettered _ hs hg' hl =>
      obtain ⟨rfl, rfl⟩ := List.cons.inj hcs
      exact ⟨_, (quoted_eq_ok_iff hmark).2 ⟨_, rfl, hs⟩,
        caseLetter_iff.2 (.inr ⟨_, mid, hg', hl, hg⟩)⟩

lemma value_mark {mark : Char} (hm : QuotationMark mark) (config : Config) (op : Operator)
    (cs : List Char) : value config op (mark :: cs) = quotedValue mark cs := by
  cases hm <;> rfl

lemma value_token {config : Config} {op : Operator} {c : Char} {cs : List Char}
    (hc : c ∉ ['/', '"', '\'']) :
    value config op (c :: cs) =
      match unquotedValue config (c :: cs) with
      | .error f => .error f
      | .ok (operand, rest) => .ok ((operand, true), rest) := by
  simp only [List.mem_cons, List.not_mem_nil, or_false, not_or] at hc
  obtain ⟨hslash, hdouble, hsingle⟩ := hc
  cases hu : unquotedValue config (c :: cs) <;> simp [value, hslash, hdouble, hsingle, hu]

/-- Reading a value takes a value and its letter, if a closing bracket follows; but a
regular expression only after the sign of equality. -/
lemma value_iff {config : Config} {op : Operator} {cs rest : List Char} {v : Operand}
    {caseSensitive : Bool} :
    (∃ cs', value config op cs = .ok ((v, caseSensitive), cs') ∧ Gap cs' (']' :: rest)) ↔
      (∃ l mid, DerivesLiteral cs l mid ∧ Gap mid (']' :: rest) ∧
        l.Denotes config v caseSensitive) ∧ ∀ r, v = .regex r → op = .equals := by
  constructor
  · rintro ⟨cs', h, hg⟩
    have hquoted : ∀ {mark : Char} {cs : List Char}, QuotationMark mark →
        quotedValue mark cs = .ok ((v, caseSensitive), cs') →
        (∃ l mid, DerivesLiteral (mark :: cs) l mid ∧ Gap mid (']' :: rest) ∧
          l.Denotes config v caseSensitive) ∧ ∀ r, v = .regex r → op = .equals := by
      intro mark cs hm hq
      obtain ⟨text, mid, hd, hg', rfl⟩ := (quotedValue_iff hm).1 ⟨cs', hq, hg⟩
      exact ⟨⟨_, mid, hd, hg', .text _ _⟩, by simp⟩
    revert h
    fun_cases value config op cs with
    | case2 left hop r left' hr =>
      rintro ⟨⟩
      obtain ⟨source, flags, rfl, hs, hf, hcompile⟩ := regexLiteral_eq_ok_iff.1 hr
      exact ⟨⟨_, _, .regex hs hf, hg, .regex hcompile⟩, fun _ _ => hop⟩
    | case4 left => exact hquoted .double
    | case5 left => exact hquoted .single
    | case6 cs f hu => simp [hu]
    | case7 cs v' left hu =>
      simp only [hu]
      rintro ⟨⟩
      obtain ⟨token, rfl, hrun, hd⟩ := unquotedValue_eq_ok_iff.1 hu
      exact ⟨⟨_, _, .token hrun, hg, hd⟩, by rintro r rfl; cases hd⟩
    | _ => simp
  · rintro ⟨⟨l, mid, hd, hg, hv⟩, hop⟩
    cases hd with
    | quoted hm hs =>
      obtain ⟨⟩ := hv
      rw [value_mark hm]
      exact (quotedValue_iff hm).2 ⟨_, mid, .quoted hm hs, hg, rfl⟩
    | lettered hm hs hg' hl =>
      obtain ⟨⟩ := hv
      rw [value_mark hm]
      exact (quotedValue_iff hm).2 ⟨_, mid, .lettered hm hs hg' hl, hg, rfl⟩
    | regex hs hf =>
      cases hv with
      | regex hcompile =>
        have hread := regexLiteral_eq_ok_iff.2 ⟨_, _, rfl, hs, hf, hcompile⟩
        exact ⟨mid, by simp only [value, if_pos (hop _ rfl), hread], hg⟩
    | token hrun =>
      obtain rfl : caseSensitive = true := by cases hv <;> rfl
      obtain ⟨c, cs, hcs, hc⟩ := head_of_token hrun hg
      -- A slash and a mark are no characters of tokens, and neither are they blank or the bracket.
      have hstart : c ∉ ['/', '"', '\''] := by
        simp only [List.mem_cons, List.not_mem_nil, or_false]
        rintro (rfl | rfl | rfl) <;> revert hc <;> decide
      have hu := unquotedValue_eq_ok_iff.2 ⟨_, rfl, hrun, hv⟩
      rw [hcs] at hu ⊢
      exact ⟨mid, by simp only [value_token hstart, hu], hg⟩

/-! ## Clauses -/

lemma ofOperand_eq_ok_iff {op : Operator} {v : Operand} {c : Comparison} :
    Comparison.ofOperand op v = .ok c ↔ Makes op v c := by
  constructor
  · fun_cases Comparison.ofOperand op v with
    | case1 v =>
      rintro ⟨⟩
      exact .equals _
    | case2 r s =>
      rintro ⟨⟩
      exact .relates _ _
    | _ => simp
  · rintro (_ | _) <;> rfl

lemma eq_equals_of_makes {op : Operator} {r : Regex} {c : Comparison}
    (h : Makes op (.regex r) c) : op = .equals := by
  cases h
  rfl

lemma comparison_iff {config : Config} {cs rest : List Char} {c : Comparison}
    {caseSensitive : Bool} :
    comparison config cs = .ok ((c, caseSensitive), rest) ↔
      ∃ op left v, operator cs = .ok (op, left) ∧
        (∃ cs', value config op (skipBlanks left) = .ok ((v, caseSensitive), cs') ∧
          Gap cs' (']' :: rest)) ∧ Makes op v c := by
  constructor
  · fun_cases comparison config cs with
    | case4 op left ho start v b left' hv left'' hclose c hc =>
      rintro ⟨⟩
      exact ⟨op, left, v, ho, ⟨left', hv, skipBlanks_eq_iff.1 hclose⟩, ofOperand_eq_ok_iff.1 hc⟩
    | _ => simp [unexpected]
  · rintro ⟨op, left, v, ho, ⟨cs', hv, hg⟩, hc⟩
    simp only [comparison, ho, hv, skipBlanks_eq_iff.2 hg, ofOperand_eq_ok_iff.2 hc]

/-- Reading a comparison takes a gap, an operator, a value that it can take, and a bracket. -/
lemma comparison_eq_ok_iff {config : Config} {cs rest : List Char} {c : Comparison}
    {caseSensitive : Bool} :
    comparison config cs = .ok ((c, caseSensitive), rest) ↔
      ∃ cs' written, Gap cs cs' ∧ DerivesComparison cs' (some written) rest ∧
        DenotesComparison config (some written) c caseSensitive := by
  rw [comparison_iff]
  constructor
  · rintro ⟨op, left, v, ho, hv, hc⟩
    obtain ⟨cs', hg, hop⟩ := operator_eq_ok_iff.1 ho
    obtain ⟨⟨l, mid, hd, hg', hden⟩, -⟩ := value_iff.1 hv
    exact ⟨cs', (op, l), hg, .present hop (gap_skipBlanks left) hd hg', .present hden hc⟩
  · rintro ⟨cs', ⟨op, l⟩, hg, _ | ⟨h₁, h₂, h₃, h₄⟩, _ | ⟨hv, hc⟩⟩
    refine ⟨op, _, _, operator_eq_ok_iff.2 ⟨cs', hg, h₁⟩, ?_, hc⟩
    rw [skipBlanks_eq_iff.2 h₂]
    exact value_iff.2 ⟨⟨l, _, h₃, h₄, hv⟩, fun r hr => eq_equals_of_makes (hr ▸ hc)⟩

lemma gap_of_derivesMore {cs rest : List Char} {more : List Part}
    (h : DerivesMore cs more rest) : Gap rest rest := by
  induction h with
  | nil hg => exact gap_self hg.head_not_blank
  | cons _ _ _ _ ih => exact ih

/-- What ends a clause begins neither with a dot, which would continue the path, nor, if it is a
comparison, with the bracket that ends a clause without one. -/
lemma head_of_derivesComparison {cs rest : List Char} {written : Option (Operator × Literal)}
    (h : DerivesComparison cs written rest) :
    cs.head? ≠ some '.' ∧ (written.isSome = true → cs.head? ≠ some ']') := by
  cases h with
  | absent => simp
  | present h₁ =>
    cases h₁ with
    | equals => simp
    | relates r => cases r <;> simp [TextRelation.sign]

/-- Reading a clause reads the parts of a path, and then a bracket or, if there is none, a
comparison. -/
lemma clause_iff {config : Config} {cs rest : List Char} {p : Predicate} :
    clause config cs = .ok (p, rest) ↔
      ∃ first left more left', segment cs = .ok (first, left) ∧
        moreSegments left = .ok (more, left') ∧ p.path = first :: more ∧
        (skipBlanks left' = ']' :: rest ∧ p.comparison = .truthy ∧ p.caseSensitive = true ∨
          (skipBlanks left').head? ≠ some ']' ∧
            comparison config (skipBlanks left') = .ok ((p.comparison, p.caseSensitive), rest)) := by
  constructor
  · fun_cases clause config cs with
    | case3 first left hs more left' hm left'' hclose =>
      rintro ⟨⟩
      exact ⟨first, left, more, left', hs, hm, rfl, .inl ⟨hclose, rfl, rfl⟩⟩
    | case5 first left hs more left' hm c b left'' hopen hc =>
      rintro ⟨⟩
      exact ⟨first, left, more, left', hs, hm, rfl, .inr ⟨head?_ne_of_forall hopen, hc⟩⟩
    | _ => simp
  · obtain ⟨path, hne, c, b⟩ := p
    rintro ⟨first, left, more, left', hs, hm, rfl, ⟨hclose, rfl, rfl⟩ | ⟨hopen, hc⟩⟩
    · simp only [clause, hs, hm, hclose]
    · simp only [clause, hs, hm]
      split
      · simp_all
      · rw [hc]

/-- Reading a clause behind its bracket takes a clause that stands for the predicate. -/
lemma clause_eq_ok_iff {config : Config} {cs rest : List Char} {p : Predicate} :
    clause config cs = .ok (p, rest) ↔
      ∃ written, DerivesClause ('[' :: cs) written rest ∧ written.Denotes config p := by
  rw [clause_iff]
  constructor
  · rintro ⟨first, left, path, left', hs, hm, hpath, hend⟩
    obtain ⟨cs', part, hg, hp, rfl⟩ := segment_eq_ok_iff.1 hs
    obtain ⟨more, hmore, -, rfl⟩ := moreSegments_eq_ok_iff.1 hm
    have hgap := gap_of_derivesMore hmore
    rw [skipBlanks_eq_iff.2 hgap] at hend
    rcases hend with ⟨rfl, hc, hb⟩ | ⟨-, hc⟩
    · exact ⟨⟨part, more, none⟩, .intro hg hp hmore (.absent _), ⟨hpath, hc ▸ hb ▸ .absent⟩⟩
    · obtain ⟨cs'', written, hg', hd, hden⟩ := comparison_eq_ok_iff.1 hc
      obtain rfl := hgap.unique hg'
      exact ⟨⟨part, more, some written⟩, .intro hg hp hmore hd, ⟨hpath, hden⟩⟩
  · rintro ⟨⟨part, more, comparison⟩, ⟨hg, hp, hmore, hend⟩, ⟨hpath, hden⟩⟩
    have hgap := gap_of_derivesMore hmore
    obtain ⟨hdot, hbracket⟩ := head_of_derivesComparison hend
    refine ⟨_, _, _, _, segment_eq_ok_iff.2 ⟨_, _, hg, hp, rfl⟩,
      moreSegments_eq_ok_iff.2 ⟨_, hmore, hdot, rfl⟩, hpath, ?_⟩
    rw [skipBlanks_eq_iff.2 hgap]
    cases comparison with
    | none =>
      cases hend
      generalize p.comparison = c, p.caseSensitive = b at hden
      cases hden
      exact .inl ⟨rfl, rfl, rfl⟩
    | some written =>
      exact .inr ⟨hbracket rfl, comparison_eq_ok_iff.2 ⟨_, written, hgap, hend, hden⟩⟩

lemma exists_cons_of_derivesClause {cs rest : List Char} {written : Clause}
    (h : DerivesClause cs written rest) : ∃ cs', cs = '[' :: cs' := by
  cases h
  exact ⟨_, rfl⟩

lemma clauses_nil_iff {config : Config} {cs : List Char} :
    clauses config cs = .ok ([], []) ↔ skipBlanks cs = [] := by
  constructor
  · fun_cases clauses config cs with
    | case4 => exact fun h => (Prod.mk.inj (Except.ok.inj h)).2
    | _ => simp
  · intro h
    rw [clauses_eq, h]

lemma clauses_cons_iff {config : Config} {cs : List Char} {p : Predicate} {ps : List Predicate} :
    clauses config cs = .ok (p :: ps, []) ↔
      ∃ left left', skipBlanks cs = '[' :: left ∧ clause config left = .ok (p, left') ∧
        clauses config left' = .ok (ps, []) := by
  constructor
  · fun_cases clauses config cs with
    | case3 left hopen q left' hc _ qs left'' hr =>
      rintro ⟨⟩
      exact ⟨left, left', hopen, hc, hr⟩
    | _ => simp
  · rintro ⟨left, left', hopen, hc, hr⟩
    rw [clauses_eq, hopen]
    simp only [hc, hr]

lemma clauses_eq_ok_iff {config : Config} {cs : List Char} {ps : List Predicate} :
    clauses config cs = .ok (ps, []) ↔
      ∃ cs' written, Gap cs cs' ∧ DerivesClauses cs' written ∧
        List.Forall₂ (Clause.Denotes config) written ps := by
  induction ps generalizing cs with
  | nil =>
    rw [clauses_nil_iff, skipBlanks_eq_iff]
    constructor
    · exact fun hg => ⟨[], [], hg, .nil, .nil⟩
    · rintro ⟨cs', _, hg, hd, _ | _⟩
      cases hd
      exact hg
  | cons p ps ih =>
    simp only [clauses_cons_iff, clause_eq_ok_iff, ih, skipBlanks_eq_iff]
    constructor
    · rintro ⟨left, left', hg, ⟨first, hd, hden⟩, cs', written, hg', hmore, hall⟩
      exact ⟨_, first :: written, hg, .cons hd hg' hmore, .cons hden hall⟩
    · rintro ⟨cs', _, hg, hd, _ | ⟨hden, hall⟩⟩
      obtain _ | ⟨hd, hg', hmore⟩ := hd
      obtain ⟨left, rfl⟩ := exists_cons_of_derivesClause hd
      exact ⟨left, _, hg, ⟨_, hd, hden⟩, _, _, hg', hmore, hall⟩

/-! ## Selectors -/

lemma selector_iff {config : Config} {cs : List Char} {s : Selector} :
    selector config cs = .ok s ↔
      ∃ left, run isNameChar (skipBlanks cs) = (s.name.toList, left) ∧
        clauses config left = .ok (s.predicates, []) ∧ ¬ (s.name = "" ∧ s.predicates = []) := by
  constructor
  · fun_cases selector config cs with
    | case4 name left hread ps hc hne =>
      rintro ⟨⟩
      exact ⟨left, by simpa using hread, hc, by simpa using hne⟩
    | _ => simp
  · obtain ⟨name, ps⟩ := s
    rintro ⟨left, hr, hc, hne⟩
    have hne' : (name.toList.isEmpty && ps.isEmpty) = false := by simpa using hne
    simp [selector, hr, hc, hne']

theorem selector_eq_ok_iff {config : Config} {cs : List Char} {s : Selector} :
    selector config cs = .ok s ↔ ∃ tree, Derives cs tree ∧ tree.Denotes config s := by
  rw [selector_iff]
  constructor
  · rintro ⟨left, hr, hc, hne⟩
    obtain ⟨hcs, hrun⟩ := run_eq_iff.1 hr
    obtain ⟨cs', written, hg, hd, hall⟩ := clauses_eq_ok_iff.1 hc
    refine ⟨⟨s.name.toList, written⟩, .intro (hcs ▸ gap_skipBlanks cs) hrun hg hd ?_,
      ⟨by simp, hall⟩⟩
    rintro ⟨hname, rfl⟩
    exact hne ⟨by simpa using hname, List.forall₂_nil_left_iff.1 hall⟩
  · rintro ⟨⟨name, written⟩, ⟨hg, hrun, hg', hd, hne⟩, hname, hall⟩
    refine ⟨_, ?_, clauses_eq_ok_iff.2 ⟨_, _, hg', hd, hall⟩, ?_⟩
    · rw [skipBlanks_eq_iff.2 hg, run_append_eq hrun, hname, String.toList_ofList]
    · rintro ⟨hempty, hps⟩
      rw [hps] at hall
      refine hne ⟨?_, List.forall₂_nil_right_iff.1 hall⟩
      simpa [hempty] using congrArg String.toList hname.symm

end Reading

lemma Selector.parse_eq_ok_iff {config : Config} {text : String} {s : Selector} :
    Selector.parse config text = .ok s ↔ Reading.selector config text.toList = .ok s := by
  unfold Selector.parse
  split <;> simp_all

/-- **The reader is exact.**  A text is read as a selector if and only if the grammar derives a
tree from it and the tree denotes the selector. -/
theorem Selector.parse_eq_ok_iff_derives (config : Config) (text : String) (s : Selector) :
    Selector.parse config text = .ok s ↔
      ∃ tree, Derives text.toList tree ∧ tree.Denotes config s :=
  Selector.parse_eq_ok_iff.trans Reading.selector_eq_ok_iff

end ComponentQuery
