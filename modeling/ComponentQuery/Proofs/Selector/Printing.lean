import ComponentQuery.Proofs.Selector.Exactness

/-!
# Selectors in print

A selector can be written in many ways.  A `Layout` makes all the choices: the blanks before,
between and behind the pieces, the mark around each text, the letter behind it, and the literal for
each number.  `print` writes a selector in a layout.

A selector that is `WellFormed` has a printed form; the conditions are those that the reader's own
results meet.  The main result, `parse_print_iff`, says which printed forms read back as the
selector: those in which no bare piece, that is a name, a boolean or a number, is followed by a
blank beyond ASCII.  Blanks beyond ASCII are name characters as well, so that one directly behind a
bare piece becomes a part of it.  Everywhere else all blanks will do.
-/

namespace ComponentQuery

open Grammar

namespace Printing

/-! ## Layouts -/

/-- Characters that are all blank. -/
structure Blanks where
  chars : List Char
  blank : ∀ c ∈ chars, isBlank c = true

/-- One blank. -/
def Blanks.single (c : Char) (hc : isBlank c = true) : Blanks where
  chars := [c]
  blank := by simpa using hc

/-- The mark around a text. -/
inductive Mark where
  | double
  | single

def Mark.char : Mark → Char
  | double => '"'
  | single => '\''

lemma Mark.quotationMark (m : Mark) : QuotationMark m.char := by
  cases m
  · exact .double
  · exact .single

/-- How the letter behind a text is written.  It is left out only where case counts. -/
inductive Letter where
  | omitted
  | small
  | capital

def Letter.chars : Letter → Bool → List Char
  | omitted, true => []
  | small, true => ['s']
  | capital, true => ['S']
  | omitted, false => ['i']
  | small, false => ['i']
  | capital, false => ['I']

/-- The choices for a part of a path. -/
structure PartLayout where
  before : Blanks
  mark : Mark
  after : Blanks

/-- The choices for a clause. -/
structure ClauseLayout where
  first : PartLayout
  more : Nat → PartLayout
  beforeValue : Blanks
  mark : Mark
  beforeLetter : Blanks
  letter : Letter
  /-- The literal for the operand if it is a number. -/
  number : List Char
  afterValue : Blanks
  afterClause : Blanks

/-- The choices for a selector. -/
structure Layout where
  beforeName : Blanks
  afterName : Blanks
  clauses : Nat → ClauseLayout

/-- The layout with the same blanks everywhere, the same literal for all numbers, double quotation
marks and no letters but where they are needed. -/
def Layout.uniform (blanks : Blanks) (number : List Char) : Layout where
  beforeName := blanks
  afterName := blanks
  clauses _ :=
    { first := ⟨blanks, .double, blanks⟩
      more := fun _ => ⟨blanks, .double, blanks⟩
      beforeValue := blanks
      mark := .double
      beforeLetter := blanks
      letter := .omitted
      number := number
      afterValue := blanks
      afterClause := blanks }

/-! ## Printing -/

/-- A text with a backslash before each mark and each backslash. -/
def escape (mark : Char) : List Char → List Char
  | [] => []
  | c :: text =>
    if c = mark ∨ c = '\\' then '\\' :: c :: escape mark text else c :: escape mark text

/-- A text between marks. -/
def quote (mark : Mark) (s : String) : List Char :=
  mark.char :: (escape mark.char s.toList ++ [mark.char])

def printPart (l : PartLayout) (s : String) : List Char :=
  l.before.chars ++ (quote l.mark s ++ l.after.chars)

/-- The parts of a path after the first. -/
def printMore (layouts : Nat → PartLayout) : List String → List Char
  | [] => []
  | s :: path => '.' :: (printPart (layouts 0) s ++ printMore (fun i => layouts (i + 1)) path)

def printPath (l : ClauseLayout) : List String → List Char
  | [] => []
  | s :: path => printPart l.first s ++ printMore l.more path

/-- An operand, with the letter behind it if it is a text. -/
def printOperand (l : ClauseLayout) (caseSensitive : Bool) : Operand → List Char
  | .text s => quote l.mark s ++ (l.beforeLetter.chars ++ l.letter.chars caseSensitive)
  | .number _ => l.number
  | .boolean b => if b then "true".toList else "false".toList
  | .regex r => r.text.toList

/-- The operator and the operand of a comparison, if it has one. -/
def printComparison (l : ClauseLayout) (caseSensitive : Bool) (c : Comparison) : List Char :=
  match c.operand? with
  | none => []
  | some v =>
    c.operator.text.toList ++
      (l.beforeValue.chars ++ (printOperand l caseSensitive v ++ l.afterValue.chars))

def printClause (l : ClauseLayout) (p : Predicate) : List Char :=
  '[' :: (printPath l p.path ++ (printComparison l p.caseSensitive p.comparison ++ [']']))

def printClauses (layouts : Nat → ClauseLayout) : List Predicate → List Char
  | [] => []
  | p :: ps =>
    printClause (layouts 0) p ++
      ((layouts 0).afterClause.chars ++ printClauses (fun i => layouts (i + 1)) ps)

/-- A selector in a layout. -/
def print (l : Layout) (s : Selector) : List Char :=
  l.beforeName.chars ++
    (s.name.toList ++ (l.afterName.chars ++ printClauses l.clauses s.predicates))

/-! ## What can be printed -/

/-- Whether an operand can be written under some settings. -/
def Writable (config : Config) : Operand → Prop
  | .text _ => True
  | .boolean _ => True
  | .number x => config.allowUnquotedStrings = false ∧ x.isNaN = false
  | .regex r => Reading.regexLiteral (r.source.toList ++ '/' :: r.flags.toList) = .ok (r, [])

/-- No part of the path is empty, the operand can be written, and case is of no account only for
texts. -/
structure WellFormedPredicate (config : Config) (p : Predicate) : Prop where
  path : ∀ s ∈ p.path, s ≠ ""
  operand : ∀ v ∈ p.comparison.operand?, Writable config v
  caseSensitive : p.caseSensitive = false → ∃ s, p.comparison.operand? = some (.text s)

/-- The name is made of name characters and begins with no blank, the predicates are well formed,
and there is a name or a predicate. -/
structure WellFormed (config : Config) (s : Selector) : Prop where
  name : ∀ c ∈ s.name.toList, Reading.isNameChar c = true
  name_head : ∀ c ∈ s.name.toList.head?, isBlank c = false
  predicates : ∀ p ∈ s.predicates, WellFormedPredicate config p
  ne_empty : ¬ (s.name = "" ∧ s.predicates = [])

/-- The literal of a layout is one for the operand, if that is a number. -/
def ClauseLayout.Fits (l : ClauseLayout) (p : Predicate) : Prop :=
  ∀ x, p.comparison.operand? = some (.number x) → numericLiteral? l.number = some x

def Layout.Fits (l : Layout) (s : Selector) : Prop :=
  ∀ i p, s.predicates[i]? = some p → (l.clauses i).Fits p

/-! ## Where blanks beyond ASCII may not stand -/

/-- Operands that are written without a mark of their own at the end. -/
def IsBare : Operand → Prop
  | .number _ => True
  | .boolean _ => True
  | _ => False

/-- Blanks that end a bare piece: there are none, or the first is one of ASCII. -/
def Blanks.Separate (b : Blanks) : Prop := ∀ c ∈ b.chars.head?, c.toNat < 0x80

def ClauseLayout.Separates (l : ClauseLayout) (p : Predicate) : Prop :=
  ∀ v ∈ p.comparison.operand?, IsBare v → l.afterValue.Separate

/-- Wherever the layout has blanks directly behind a bare piece, the first is one of ASCII. -/
structure Layout.Separates (l : Layout) (s : Selector) : Prop where
  name : s.name ≠ "" → l.afterName.Separate
  clauses : ∀ i p, s.predicates[i]? = some p → (l.clauses i).Separates p

/-! ## Blanks behind printed pieces -/

lemma Blanks.gap (b : Blanks) {rest : List Char} (h : ∀ c ∈ rest.head?, isBlank c = false) :
    Gap (b.chars ++ rest) rest :=
  gap_append b.blank h

lemma Blanks.skipBlanks_eq (b : Blanks) {rest : List Char}
    (h : ∀ c ∈ rest.head?, isBlank c = false) : skipBlanks (b.chars ++ rest) = rest :=
  skipBlanks_eq_iff.2 (b.gap h)

/-- Separating blanks end a run that what follows would not continue either. -/
lemma Blanks.Separate.isRun {b : Blanks} (hb : b.Separate) {p : Char → Bool}
    (hp : ∀ c, isBlank c = true → p c = decide (0x80 ≤ c.toNat)) {run rest : List Char}
    (hrun : ∀ c ∈ run, p c = true) (hrest : ∀ c ∈ rest.head?, p c = false) :
    IsRun p run (b.chars ++ rest) := by
  refine ⟨hrun, ?_⟩
  obtain ⟨chars, hblank⟩ := b
  cases chars with
  | nil => exact hrest
  | cons c chars =>
    have hc : c.toNat < 0x80 := hb c rfl
    intro d hd
    obtain rfl : c = d := by simpa using hd
    rw [hp c (hblank c (List.mem_cons_self ..))]
    simpa using hc

/-- Blanks that do not separate begin with a character that goes into the run before them. -/
lemma Blanks.exists_mem_of_not_separate {b : Blanks} (hb : ¬ b.Separate) {p : Char → Bool}
    (hp : ∀ c, isBlank c = true → p c = decide (0x80 ≤ c.toNat)) {token run left rest : List Char}
    (htoken : ∀ c ∈ token, p c = true) (h : token ++ (b.chars ++ rest) = run ++ left)
    (hrun : IsRun p run left) : token ≠ run ∧ ∃ c ∈ run, 0x80 ≤ c.toNat := by
  obtain ⟨chars, hblank⟩ := b
  cases chars with
  | nil => exact absurd (fun _ hc => nomatch hc) hb
  | cons c chars =>
    have hc : 0x80 ≤ c.toNat := by
      by_contra hlt
      refine hb fun d hd => ?_
      obtain rfl : c = d := by simpa using hd
      omega
    have hpc : p c = true := by simpa [hp c (hblank c (List.mem_cons_self ..))] using hc
    obtain ⟨more, rfl⟩ : ∃ more, run = token ++ c :: more := by
      refine ⟨(chars ++ rest).takeWhile p, ?_⟩
      calc run
        _ = (token ++ (c :: chars ++ rest)).takeWhile p := by rw [h, hrun.takeWhile_eq]
        _ = token ++ (c :: (chars ++ rest)).takeWhile p := List.takeWhile_append_of_pos htoken
        _ = token ++ c :: (chars ++ rest).takeWhile p := by rw [List.takeWhile_cons_of_pos hpc]
    exact ⟨by simp, c, by simp, hc⟩

/-! ## Printed paths -/

lemma spelling_escape (mark : Char) (text : List Char) :
    Spelling mark (escape mark text) text := by
  induction text with
  | nil => exact .nil
  | cons c text ih =>
    unfold escape
    split
    case isTrue => exact .escaped c ih
    case isFalse hc =>
      exact .plain (fun h => hc (.inl h)) (fun h => hc (.inr h)) ih

lemma quote_append (mark : Mark) (s : String) (rest : List Char) :
    quote mark s ++ rest = mark.char :: (escape mark.char s.toList ++ mark.char :: rest) := by
  simp [quote]

lemma head_quote (mark : Mark) (s : String) (rest : List Char) :
    ∀ c ∈ (quote mark s ++ rest).head?, isBlank c = false := by
  rw [quote_append]
  simpa using Reading.isBlank_of_quotationMark mark.quotationMark

lemma derivesPart_quote (mark : Mark) {s : String} (hs : s ≠ "") (rest : List Char) :
    DerivesPart (quote mark s ++ rest) (.quoted s.toList) rest := by
  rw [quote_append]
  exact .quoted mark.quotationMark (spelling_escape _ _) (by simpa using hs)

lemma segment_printPart (l : PartLayout) {s : String} (hs : s ≠ "") (rest : List Char) :
    Reading.segment (printPart l s ++ rest) = .ok (s, l.after.chars ++ rest) := by
  have hpart := derivesPart_quote l.mark hs (l.after.chars ++ rest)
  have hgap := l.before.gap (head_quote l.mark s (l.after.chars ++ rest))
  refine Reading.segment_eq_ok_iff.2 ⟨_, _, ?_, hpart, by simp [Part.text]⟩
  simpa [printPart] using hgap

/-- Printed parts after the first are read back, with the blanks before them. -/
lemma moreSegments_printMore (layouts : Nat → PartLayout) {path : List String} (b : Blanks)
    {rest : List Char} (hpath : ∀ s ∈ path, s ≠ "")
    (hrest : ∀ c ∈ rest.head?, isBlank c = false ∧ c ≠ '.') :
    Reading.moreSegments (b.chars ++ (printMore layouts path ++ rest)) = .ok (path, rest) := by
  induction path generalizing layouts b with
  | nil =>
    refine Reading.moreSegments_eq_ok_iff.2 ⟨[], .nil (b.gap fun c hc => (hrest c hc).1), ?_, rfl⟩
    exact fun hdot => (hrest '.' hdot).2 rfl
  | cons s path ih =>
    have hmore := ih (fun i => layouts (i + 1)) (layouts 0).after
      fun t ht => hpath t (List.mem_cons_of_mem s ht)
    have hpart := segment_printPart (layouts 0) (hpath s (List.mem_cons_self ..))
      (printMore (fun i => layouts (i + 1)) path ++ rest)
    obtain ⟨more, hmore, hhead, rfl⟩ := Reading.moreSegments_eq_ok_iff.1 hmore
    obtain ⟨cs, part, hgap, hd, rfl⟩ := Reading.segment_eq_ok_iff.1 hpart
    refine Reading.moreSegments_eq_ok_iff.2 ⟨part :: more, .cons ?_ hgap hd hmore, hhead, rfl⟩
    simp only [printMore, List.cons_append, List.append_assoc]
    exact b.gap (by simpa using (by decide : isBlank '.' = false))

/-! ## Printed operands -/

/-- A character of ASCII that may be part of a token. -/
def IsPlainTokenChar (c : Char) : Prop := c.toNat < 0x80 ∧ Reading.isTokenChar c = true

instance : DecidablePred IsPlainTokenChar := fun c =>
  inferInstanceAs (Decidable (c.toNat < 0x80 ∧ Reading.isTokenChar c = true))

lemma IsPlainTokenChar.isBlank_eq_false {c : Char} (h : IsPlainTokenChar c) :
    isBlank c = false := by
  obtain ⟨hlt, hc⟩ := h
  by_contra hblank
  have htoken := (Reading.isNameChar_isTokenChar_of_isBlank (eq_true_of_ne_false hblank)).2
  rw [htoken, decide_eq_true_eq] at hc
  omega

lemma isPlainTokenChar_of_isDecimalChar {c : Char} (h : IsDecimalChar c) : IsPlainTokenChar c := by
  rcases h with h | h
  · refine ⟨?_, by simp [Reading.isTokenChar, Reading.isNameChar, Char.isAlphanum, h]⟩
    have hle : c.toNat ≤ 57 := (Char.isDigit_iff_toNat.1 h).2
    omega
  · have hall : ['.', 'e', 'E', '+', '-'].Forall IsPlainTokenChar := by decide
    exact List.forall_iff_forall_mem.1 hall c h

lemma isPlainTokenChar_of_isDigitOf {base : Nat} (hb : base ≤ 16) {c : Char} {d : Nat}
    (h : IsDigitOf base c d) : IsPlainTokenChar c := by
  have hall : ∀ d < 16, IsPlainTokenChar (Nat.digitChar d) ∧
      IsPlainTokenChar (Nat.digitChar d).toUpper := by decide
  obtain ⟨hd, rfl | rfl⟩ := h
  · exact (hall d (by omega)).1
  · exact (hall d (by omega)).2

lemma isPlainTokenChar_of_numericLiteral {token : List Char} {x : Binary64}
    (h : NumericLiteral token x) : ∀ c ∈ token, IsPlainTokenChar c := by
  rcases h with hs | ⟨hs, hm, he⟩ | ⟨hl, -, hds⟩
  · intro c hc
    rcases List.mem_append.1 hc with hc | hc
    · exact isPlainTokenChar_of_isDecimalChar (hs.forall_char c hc)
    · have hall : "Infinity".toList.Forall IsPlainTokenChar := by decide
      exact List.forall_iff_forall_mem.1 hall c hc
  · intro c hc
    refine isPlainTokenChar_of_isDecimalChar ?_
    rcases List.mem_append.1 hc with hc | hc
    · exact hs.forall_char c hc
    · rcases List.mem_append.1 hc with hc | hc
      · exact hm.forall_char c hc
      · exact he.forall_char c hc
  · simp only [List.forall_mem_cons]
    refine ⟨⟨by decide, by decide⟩, ?_, ?_⟩
    · rcases hl with h | h | h <;> rcases h with rfl | rfl <;> exact ⟨by decide, by decide⟩
    · intro c hc
      obtain ⟨i, hi, rfl⟩ := List.getElem_of_mem hc
      exact isPlainTokenChar_of_isDigitOf hl.le_sixteen (hds.get hi (hds.length_eq ▸ hi))

lemma isPlainTokenChar_of_denotes {config : Config} {token : List Char} {v : Operand} {b : Bool}
    (hv : IsBare v) (h : (Literal.token token).Denotes config v b) :
    ∀ c ∈ token, IsPlainTokenChar c := by
  cases h with
  | true => exact List.forall_iff_forall_mem.1 (by decide)
  | false => exact List.forall_iff_forall_mem.1 (by decide)
  | zero => simp
  | number _ hx => exact isPlainTokenChar_of_numericLiteral hx
  | string => exact hv.elim

/-- A bare operand is printed as a token that denotes it. -/
lemma denotes_printOperand {config : Config} {l : ClauseLayout} {v : Operand} (hv : IsBare v)
    (hw : Writable config v) (hfits : ∀ x, v = .number x → numericLiteral? l.number = some x) :
    (Literal.token (printOperand l true v)).Denotes config v true ∧ printOperand l true v ≠ [] := by
  cases v with
  | text _ => exact hv.elim
  | regex _ => exact hv.elim
  | number x =>
    have hx := numericLiteral?_eq_some_iff.1 (hfits x rfl)
    exact ⟨.number hw.1 hx, Reading.ne_of_numericLiteral hx rfl⟩
  | boolean b =>
    cases b with
    | true => exact ⟨.true, by simp [printOperand]⟩
    | false => exact ⟨.false, by simp [printOperand]⟩

/-- The letter behind a text is left out, or it is one that says whether case counts. -/
lemma Letter.chars_cases (l : Letter) (caseSensitive : Bool) :
    (l.chars caseSensitive = [] ∧ caseSensitive = true) ∨
      ∃ c, l.chars caseSensitive = [c] ∧ CaseLetter c caseSensitive := by
  cases caseSensitive <;> cases l
  · exact .inr ⟨'i', rfl, .insensitive (.inl rfl)⟩
  · exact .inr ⟨'i', rfl, .insensitive (.inl rfl)⟩
  · exact .inr ⟨'I', rfl, .insensitive (.inr rfl)⟩
  · exact .inl ⟨rfl, rfl⟩
  · exact .inr ⟨'s', rfl, .sensitive (.inl rfl)⟩
  · exact .inr ⟨'S', rfl, .sensitive (.inr rfl)⟩

lemma isBlank_of_caseLetter {c : Char} {b : Bool} (h : CaseLetter c b) :
    isBlank c = false := by
  rcases h with h | h <;> rcases h with rfl | rfl <;> rfl

/-- A printed text is derived with its letter. -/
lemma derivesLiteral_text (l : ClauseLayout) (s : String) (b : Bool) (rest : List Char) :
    ∃ mid, DerivesLiteral (printOperand l b (.text s) ++ (l.afterValue.chars ++ ']' :: rest))
        (.quoted s.toList b) mid ∧
      Gap mid (']' :: rest) := by
  have hm := l.mark.quotationMark
  have hs := spelling_escape l.mark.char s.toList
  have hend : Gap (l.afterValue.chars ++ ']' :: rest) (']' :: rest) :=
    l.afterValue.gap (by simpa using (by decide : isBlank ']' = false))
  rw [printOperand, List.append_assoc, quote_append, List.append_assoc]
  rcases l.letter.chars_cases b with ⟨hnone, rfl⟩ | ⟨c, hc, hletter⟩
  · refine ⟨_, .quoted hm hs, ?_⟩
    rw [hnone, List.nil_append, ← List.append_assoc]
    refine gap_append (fun c hc => ?_) hend.head_not_blank
    rcases List.mem_append.1 hc with hc | hc
    · exact l.beforeLetter.blank c hc
    · exact l.afterValue.blank c hc
  · refine ⟨_, .lettered hm hs ?_ hletter, hend⟩
    rw [hc]
    exact l.beforeLetter.gap (by simpa using isBlank_of_caseLetter hletter)

lemma derivesLiteral_regex {config : Config} (l : ClauseLayout) {r : Regex}
    (hw : Writable config (.regex r)) (rest : List Char) :
    ∃ source flags, DerivesLiteral
        (printOperand l true (.regex r) ++ (l.afterValue.chars ++ ']' :: rest))
        (.regex source flags) (l.afterValue.chars ++ ']' :: rest) ∧
      (Literal.regex source flags).Denotes config (.regex r) true := by
  obtain ⟨source, flags, -, hs, hf, hcompile⟩ := Reading.regexLiteral_eq_ok_iff.1 hw
  obtain ⟨hsource, hflags⟩ := Regex.compile_eq_ok_iff.1 hcompile
  refine ⟨source, flags, ?_, .regex hcompile⟩
  have hrun : IsRun Regex.isFlag flags (l.afterValue.chars ++ ']' :: rest) := by
    refine ⟨hf.all, ?_⟩
    have hblank : blanks.Forall fun c => Regex.isFlag c = false := by decide
    cases hafter : l.afterValue.chars with
    | nil => simpa using (by decide : Regex.isFlag ']' = false)
    | cons c cs =>
      have hc : isBlank c = true := l.afterValue.blank c (hafter ▸ List.mem_cons_self ..)
      simpa using List.forall_iff_forall_mem.1 hblank c (List.contains_iff_mem.1 hc)
  have htext : printOperand l true (.regex r) = '/' :: (source ++ '/' :: flags) := by
    simp [printOperand, Regex.text, hsource, hflags]
  rw [htext]
  simpa using DerivesLiteral.regex hs hrun

/-- What is asked of the value of a clause: the operand can be written, the literal of the layout is
one for it, and case is of no account only for a text. -/
structure Prints (config : Config) (l : ClauseLayout) (v : Operand) (caseSensitive : Bool) :
    Prop where
  writable : Writable config v
  number : ∀ x, v = .number x → numericLiteral? l.number = some x
  caseSensitive : caseSensitive = false → ∃ s, v = .text s

variable {config : Config} {l : ClauseLayout} {op : Operator} {v : Operand} {b : Bool}

lemma Prints.caseSensitive_of_isBare (hp : Prints config l v b) (hv : IsBare v) : b = true := by
  by_contra hb
  obtain ⟨s, rfl⟩ := hp.caseSensitive (eq_false_of_ne_true hb)
  exact hv

/-- A printed operand is derived if separating blanks follow a bare one. -/
lemma exists_derivesLiteral (hp : Prints config l v b) (hsep : IsBare v → l.afterValue.Separate)
    (rest : List Char) :
    ∃ lit mid, DerivesLiteral (printOperand l b v ++ (l.afterValue.chars ++ ']' :: rest)) lit mid ∧
      Gap mid (']' :: rest) ∧ lit.Denotes config v b := by
  have hend : Gap (l.afterValue.chars ++ ']' :: rest) (']' :: rest) :=
    l.afterValue.gap (by simpa using (by decide : isBlank ']' = false))
  by_cases htext : ∃ s, v = .text s
  · obtain ⟨s, rfl⟩ := htext
    obtain ⟨mid, hd, hg⟩ := derivesLiteral_text l s b rest
    exact ⟨_, mid, hd, hg, by simpa using Literal.Denotes.text s.toList b⟩
  obtain rfl : b = true := by
    by_contra hb
    exact htext (hp.caseSensitive (eq_false_of_ne_true hb))
  by_cases hv : IsBare v
  · obtain ⟨hden, -⟩ := denotes_printOperand (l := l) hv hp.writable hp.number
    refine ⟨_, _, .token ((hsep hv).isRun (fun c hc => ?_) (fun c hc => ?_) ?_), hend, hden⟩
    · exact (Reading.isNameChar_isTokenChar_of_isBlank hc).2
    · exact (isPlainTokenChar_of_denotes hv hden c hc).2
    · simpa using (by decide : Reading.isTokenChar ']' = false)
  · cases v with
    | text s => exact absurd ⟨s, rfl⟩ htext
    | number _ => exact absurd trivial hv
    | boolean _ => exact absurd trivial hv
    | regex r =>
      obtain ⟨source, flags, hd, hden⟩ := derivesLiteral_regex l hp.writable rest
      exact ⟨_, _, hd, hend, hden⟩

/-- If a printed operand is derived and denotes itself, separating blanks follow a bare one. -/
lemma separate_of_derivesLiteral (hp : Prints config l v b) (hv : IsBare v) {rest mid : List Char}
    {lit : Literal}
    (hd : DerivesLiteral (printOperand l b v ++ (l.afterValue.chars ++ rest)) lit mid)
    (hden : lit.Denotes config v b) : l.afterValue.Separate := by
  obtain rfl := hp.caseSensitive_of_isBare hv
  generalize hcs : printOperand l true v ++ (l.afterValue.chars ++ rest) = cs at hd
  cases hd with
  | quoted => cases hden; exact hv.elim
  | lettered => cases hden; exact hv.elim
  | regex => cases hden; exact hv.elim
  | token hrun =>
    by_contra hsep
    have hplain := isPlainTokenChar_of_denotes hv
      (denotes_printOperand (l := l) hv hp.writable hp.number).1
    obtain ⟨-, c, hc, hlarge⟩ := Blanks.exists_mem_of_not_separate hsep
      (fun c hc => (Reading.isNameChar_isTokenChar_of_isBlank hc).2) (fun c hc => (hplain c hc).2)
      hcs hrun
    have := (isPlainTokenChar_of_denotes hv hden c hc).1
    omega

lemma value_printOperand_iff (hp : Prints config l v b) (hop : ∀ r, v = .regex r → op = .equals)
    {rest rest' : List Char} :
    (∃ cs, Reading.value config op (printOperand l b v ++ (l.afterValue.chars ++ ']' :: rest)) =
        .ok ((v, b), cs) ∧ Gap cs (']' :: rest')) ↔
      (IsBare v → l.afterValue.Separate) ∧ rest' = rest := by
  constructor
  · rintro ⟨cs, hread, hg⟩
    obtain ⟨⟨lit, mid, hd, -, hden⟩, -⟩ := Reading.value_iff.1 ⟨cs, hread, hg⟩
    have hsep : IsBare v → l.afterValue.Separate := fun hv =>
      separate_of_derivesLiteral hp hv hd hden
    obtain ⟨cs', hread', hg'⟩ := Reading.value_iff.2 ⟨exists_derivesLiteral hp hsep rest, hop⟩
    obtain ⟨-, rfl⟩ := Prod.mk.inj (Except.ok.inj (hread.symm.trans hread'))
    exact ⟨hsep, (List.cons.inj (hg.unique hg')).2⟩
  · rintro ⟨hsep, rfl⟩
    exact Reading.value_iff.2 ⟨exists_derivesLiteral hp hsep rest', hop⟩

lemma head_printOperand (hp : Prints config l v b) (rest : List Char) :
    ∀ c ∈ (printOperand l b v ++ rest).head?, isBlank c = false := by
  by_cases hv : IsBare v
  · obtain rfl := hp.caseSensitive_of_isBare hv
    obtain ⟨hden, hne⟩ := denotes_printOperand (l := l) hv hp.writable hp.number
    obtain ⟨c, cs, hcs⟩ := List.exists_cons_of_ne_nil hne
    have hc := isPlainTokenChar_of_denotes hv hden c (hcs ▸ List.mem_cons_self ..)
    simpa [hcs] using hc.isBlank_eq_false
  · cases v with
    | number _ => exact absurd trivial hv
    | boolean _ => exact absurd trivial hv
    | text s =>
      rw [printOperand, List.append_assoc]
      exact head_quote l.mark s _
    | regex r => simpa [printOperand, Regex.text] using (by decide : isBlank '/' = false)

/-! ## Printed clauses -/

/-- What is asked of the comparison of a clause. -/
lemma prints_of_wellFormed {p : Predicate} (hp : WellFormedPredicate config p) (hl : l.Fits p)
    (hv : p.comparison.operand? = some v) : Prints config l v p.caseSensitive where
  writable := hp.operand v hv
  number := by rintro x rfl; exact hl x hv
  caseSensitive := by
    intro hb
    obtain ⟨s, hs⟩ := hp.caseSensitive hb
    exact ⟨s, Option.some.inj (hv.symm.trans hs)⟩

/-- An operand belongs to a comparison that its operator makes of it. -/
lemma makes_of_operand? {c : Comparison} (hv : c.operand? = some v) : Makes c.operator v c := by
  cases c with
  | truthy => simp [Comparison.operand?] at hv
  | equals w => obtain rfl := Option.some.inj hv; exact .equals _
  | relates r s => obtain rfl := Option.some.inj hv; exact .relates r s

lemma operand?_of_makes {c : Comparison} (h : Makes op v c) :
    c.operator = op ∧ c.operand? = some v := by
  cases h <;> exact ⟨rfl, rfl⟩

lemma operator_ne_truthy {c : Comparison} (hv : c.operand? = some v) : c.operator ≠ .truthy := by
  cases c <;> simp [Comparison.operator, Comparison.operand?] at hv ⊢

lemma printComparison_append {c : Comparison} (hv : c.operand? = some v) (rest : List Char) :
    printComparison l b c ++ rest = c.operator.text.toList ++
      (l.beforeValue.chars ++ (printOperand l b v ++ (l.afterValue.chars ++ rest))) := by
  simp [printComparison, hv]

lemma operator_text (h : op ≠ .truthy) (rest : List Char) :
    Reading.operator (op.text.toList ++ rest) = .ok (op, rest) := by
  cases op with
  | truthy => exact absurd rfl h
  | equals => rfl
  | relates r => cases r <;> rfl

/-- The sign of an operator begins with no blank, no dot and no bracket. -/
lemma exists_cons_operator_text (h : op ≠ .truthy) :
    ∃ d cs, op.text.toList = d :: cs ∧ isBlank d = false ∧ d ≠ '.' ∧ d ≠ ']' := by
  cases op with
  | truthy => exact absurd rfl h
  | equals => exact ⟨'=', [], rfl, by decide, by decide, by decide⟩
  | relates r => exact ⟨r.sign, ['='], by simp [Operator.text], by cases r <;> decide⟩

lemma comparison_printComparison_iff {c : Comparison} (hv : c.operand? = some v)
    (hp : Prints config l v b) (rest rest' : List Char) :
    Reading.comparison config (printComparison l b c ++ ']' :: rest) = .ok ((c, b), rest') ↔
      (IsBare v → l.afterValue.Separate) ∧ rest' = rest := by
  have hmakes := makes_of_operand? hv
  have hregex : ∀ r, v = .regex r → c.operator = .equals := fun r hr =>
    Reading.eq_equals_of_makes (hr ▸ hmakes)
  have hread := operator_text (operator_ne_truthy hv)
    (l.beforeValue.chars ++ (printOperand l b v ++ (l.afterValue.chars ++ ']' :: rest)))
  have hskip := l.beforeValue.skipBlanks_eq
    (head_printOperand hp (l.afterValue.chars ++ ']' :: rest))
  rw [printComparison_append hv, Reading.comparison_iff, ← value_printOperand_iff hp hregex]
  constructor
  · rintro ⟨op, left, w, ho, hw, hc⟩
    obtain ⟨rfl, hw'⟩ := operand?_of_makes hc
    obtain rfl := Option.some.inj (hv.symm.trans hw')
    obtain ⟨-, rfl⟩ := Prod.mk.inj (Except.ok.inj (hread.symm.trans ho))
    rwa [hskip] at hw
  · intro hw
    exact ⟨c.operator, _, v, hread, by rwa [hskip], hmakes⟩

/-- Behind a printed path, a clause is read as a bracket or, if there is none, as a comparison. -/
lemma clause_printPath_iff {p : Predicate} (hp : ∀ s ∈ p.path, s ≠ "") {cs rest : List Char}
    (hcs : ∀ d ∈ cs.head?, isBlank d = false ∧ d ≠ '.') :
    Reading.clause config (printPath l p.path ++ cs) = .ok (p, rest) ↔
      cs = ']' :: rest ∧ p.comparison = .truthy ∧ p.caseSensitive = true ∨
        cs.head? ≠ some ']' ∧
          Reading.comparison config cs = .ok ((p.comparison, p.caseSensitive), rest) := by
  obtain ⟨s, path, hpath⟩ := List.exists_cons_of_ne_nil p.path_ne_nil
  rw [hpath] at hp ⊢
  simp only [printPath, List.append_assoc]
  have hfirst := segment_printPart l.first (hp s (List.mem_cons_self ..))
    (printMore l.more path ++ cs)
  have hmore := moreSegments_printMore l.more l.first.after
    (fun t ht => hp t (List.mem_cons_of_mem s ht)) hcs
  have hskip : skipBlanks cs = cs := skipBlanks_eq_iff.2 (gap_self fun d hd => (hcs d hd).1)
  rw [Reading.clause_iff]
  constructor
  · rintro ⟨first, left, more, left', hs, hm, -, hend⟩
    obtain ⟨-, rfl⟩ := Prod.mk.inj (Except.ok.inj (hfirst.symm.trans hs))
    obtain ⟨-, rfl⟩ := Prod.mk.inj (Except.ok.inj (hmore.symm.trans hm))
    rwa [hskip] at hend
  · intro hend
    exact ⟨s, _, path, cs, hfirst, hmore, hpath, by rwa [hskip]⟩

lemma clause_printClause_iff {p : Predicate} (hp : WellFormedPredicate config p) (hl : l.Fits p)
    (rest rest' : List Char) :
    Reading.clause config (printPath l p.path ++
        (printComparison l p.caseSensitive p.comparison ++ ']' :: rest)) = .ok (p, rest') ↔
      l.Separates p ∧ rest' = rest := by
  cases hv : p.comparison.operand? with
  | none =>
    have hc : p.comparison = .truthy := by
      cases hc : p.comparison <;> simp [Comparison.operand?, hc] at hv ⊢
    have hb : p.caseSensitive = true := by
      by_contra hb
      obtain ⟨t, ht⟩ := hp.caseSensitive (eq_false_of_ne_true hb)
      simp [hv] at ht
    have hhead : ∀ d ∈ (']' :: rest).head?, isBlank d = false ∧ d ≠ '.' := by
      simpa using (by decide : isBlank ']' = false)
    have hprint : printComparison l p.caseSensitive p.comparison = [] := by
      simp [printComparison, hv]
    rw [hprint, List.nil_append, clause_printPath_iff hp.path hhead]
    simp [hc, hb, ClauseLayout.Separates, Comparison.operand?, eq_comm]
  | some v =>
    obtain ⟨d, cs, hsign, hblank, hdot, hbracket⟩ :=
      exists_cons_operator_text (operator_ne_truthy hv)
    have hcs := printComparison_append (l := l) (b := p.caseSensitive) hv (']' :: rest)
    rw [hsign, List.cons_append] at hcs
    have hread := comparison_printComparison_iff hv (prints_of_wellFormed hp hl hv) rest rest'
    rw [hcs] at hread ⊢
    rw [clause_printPath_iff hp.path (by simpa using ⟨hblank, hdot⟩), hread]
    simp [hbracket, ClauseLayout.Separates, hv]

lemma head_printClauses (layouts : Nat → ClauseLayout) (ps : List Predicate) :
    ∀ c ∈ (printClauses layouts ps).head?, isBlank c = false ∧ Reading.isNameChar c = false := by
  cases ps with
  | nil => simp [printClauses]
  | cons p ps =>
    have hopen : isBlank '[' = false ∧ Reading.isNameChar '[' = false := by decide
    simpa [printClauses, printClause] using hopen

/-- Printed clauses are read back, with the blanks before them, exactly if separating blanks follow
every bare operand. -/
lemma clauses_printClauses_iff (layouts : Nat → ClauseLayout) {ps : List Predicate} (b : Blanks)
    (hps : ∀ p ∈ ps, WellFormedPredicate config p)
    (hl : ∀ i p, ps[i]? = some p → (layouts i).Fits p) :
    Reading.clauses config (b.chars ++ printClauses layouts ps) = .ok (ps, []) ↔
      ∀ i p, ps[i]? = some p → (layouts i).Separates p := by
  have hskip := b.skipBlanks_eq fun c hc => (head_printClauses layouts ps c hc).1
  induction ps generalizing layouts b with
  | nil =>
    rw [Reading.clauses_nil_iff, hskip]
    simp [printClauses]
  | cons p ps ih =>
    have hclause := clause_printClause_iff (hps p (List.mem_cons_self ..)) (hl 0 p rfl)
      ((layouts 0).afterClause.chars ++ printClauses (fun i => layouts (i + 1)) ps)
    have hclauses := ih (fun i => layouts (i + 1)) (layouts 0).afterClause
      (fun q hq => hps q (List.mem_cons_of_mem p hq))
      (fun i q hq => hl (i + 1) q (by simpa using hq))
      ((layouts 0).afterClause.skipBlanks_eq fun c hc => (head_printClauses _ ps c hc).1)
    rw [Reading.clauses_cons_iff, hskip]
    simp only [printClauses, printClause, List.cons_append, List.append_assoc, List.nil_append]
    constructor
    · rintro ⟨left, left', hopen, hc, hr⟩
      obtain ⟨-, rfl⟩ := List.cons.inj hopen
      obtain ⟨hsep, rfl⟩ := (hclause left').1 hc
      rintro (_ | i) q hq
      · obtain rfl := Option.some.inj hq
        exact hsep
      · exact hclauses.1 hr i q (by simpa using hq)
    · intro hsep
      refine ⟨_, _, rfl, (hclause _).2 ⟨hsep 0 p rfl, rfl⟩, hclauses.2 fun i q hq => ?_⟩
      exact hsep (i + 1) q (by simpa using hq)

/-! ## Printed selectors -/

/-- The name of a printed selector is read back exactly if separating blanks follow it. -/
lemma run_print_iff {l : Layout} {s : Selector} (hs : WellFormed config s) (hname : s.name ≠ "")
    {left : List Char} :
    Reading.run Reading.isNameChar (skipBlanks (print l s)) = (s.name.toList, left) ↔
      l.afterName.Separate ∧ left = l.afterName.chars ++ printClauses l.clauses s.predicates := by
  have hblank := fun c hc => (Reading.isNameChar_isTokenChar_of_isBlank (c := c) hc).1
  have hskip : skipBlanks (print l s) =
      s.name.toList ++ (l.afterName.chars ++ printClauses l.clauses s.predicates) := by
    refine l.beforeName.skipBlanks_eq ?_
    obtain ⟨c, cs, hcs⟩ := List.exists_cons_of_ne_nil fun h => hname (String.toList_eq_nil_iff.1 h)
    have hhead := hs.name_head
    rw [hcs] at hhead ⊢
    simpa using hhead
  rw [hskip, Reading.run_eq_iff]
  constructor
  · rintro ⟨heq, hrun⟩
    refine ⟨?_, (List.append_cancel_left heq).symm⟩
    by_contra hsep
    exact (Blanks.exists_mem_of_not_separate hsep hblank hs.name heq hrun).1 rfl
  · rintro ⟨hsep, rfl⟩
    exact ⟨rfl, hsep.isRun hblank hs.name fun c hc => (head_printClauses _ _ c hc).2⟩

/-- A printed selector without a name is read as one. -/
lemma run_print_of_name_eq {l : Layout} {s : Selector} (hname : s.name = "") :
    Reading.run Reading.isNameChar (skipBlanks (print l s)) =
      ([], printClauses l.clauses s.predicates) := by
  have hhead := head_printClauses l.clauses s.predicates
  have hskip : skipBlanks (print l s) = printClauses l.clauses s.predicates := by
    have hblanks : ∀ c ∈ l.beforeName.chars ++ l.afterName.chars, isBlank c = true := by
      intro c hc
      rcases List.mem_append.1 hc with hc | hc
      · exact l.beforeName.blank c hc
      · exact l.afterName.blank c hc
    have hgap := gap_append hblanks fun c hc => (hhead c hc).1
    simpa [print, hname] using skipBlanks_eq_iff.2 hgap
  rw [hskip]
  exact Reading.run_eq_iff.2 ⟨rfl, by simp, fun c hc => (hhead c hc).2⟩

/-- **Printing is undone by parsing**, up to where blanks beyond ASCII stand.  A well-formed
selector, printed in any layout, is read back exactly if, directly behind its name and behind each
boolean and each number, the layout has no blanks or blanks that begin with one of ASCII. -/
theorem parse_print_iff (config : Config) (s : Selector) (l : Layout) (hs : WellFormed config s)
    (hl : l.Fits s) :
    Selector.parse config (String.ofList (print l s)) = .ok s ↔ l.Separates s := by
  rw [Selector.parse_eq_ok_iff, String.toList_ofList, Reading.selector_iff]
  by_cases hname : s.name = ""
  · rw [run_print_of_name_eq hname]
    have hclauses := clauses_printClauses_iff l.clauses ⟨[], by simp⟩ hs.predicates hl
    constructor
    · rintro ⟨left, hr, hc, -⟩
      obtain ⟨-, rfl⟩ := Prod.mk.inj hr
      exact ⟨fun h => absurd hname h, hclauses.1 hc⟩
    · intro hsep
      exact ⟨_, by simp [hname], hclauses.2 hsep.clauses, hs.ne_empty⟩
  · have hclauses := clauses_printClauses_iff l.clauses l.afterName hs.predicates hl
    constructor
    · rintro ⟨left, hr, hc, -⟩
      obtain ⟨hsep, rfl⟩ := (run_print_iff hs hname).1 hr
      exact ⟨fun _ => hsep, hclauses.1 hc⟩
    · intro hsep
      exact ⟨_, (run_print_iff hs hname).2 ⟨hsep.name hname, rfl⟩, hclauses.2 hsep.clauses,
        hs.ne_empty⟩

/-- A selector with a number, printed with spaces everywhere, is read back. -/
theorem parse_print_spaces :
    let config : Config := ⟨false⟩
    let s : Selector :=
      ⟨"list", [⟨["a", "b.c"], by simp, .equals (.number (.ofDecimal false 15 (-1))), true⟩]⟩
    let l : Layout := .uniform (.single ' ' rfl) "1.5".toList
    WellFormed config s ∧ l.Fits s ∧
      Selector.parse config (String.ofList (print l s)) = .ok s := by
  intro config s l
  have hs : WellFormed config s := by
    refine ⟨List.forall_iff_forall_mem.1 (by decide), ?_, fun p hp => ?_, by simp [s]⟩
    · simpa [s] using (by decide : isBlank 'l' = false)
    obtain rfl := List.mem_singleton.1 hp
    refine ⟨by simp, fun v hv => ?_, by simp⟩
    obtain rfl := Option.some.inj hv
    exact ⟨rfl, by decide +kernel⟩
  have hl : l.Fits s := by
    rintro (_ | i) p hp x hx
    · obtain rfl := Option.some.inj hp
      obtain rfl := Operand.number.inj (Option.some.inj hx)
      decide +kernel
    · simp [s] at hp
  refine ⟨hs, hl, (parse_print_iff config s l hs hl).2 ⟨fun _ => ?_, fun i p _ v _ _ => ?_⟩⟩
  · simp [Blanks.Separate, l, Layout.uniform, Blanks.single]
  · simp [Blanks.Separate, l, Layout.uniform, Blanks.single]

/-- A name in print with no-break spaces around it is not read back: the second becomes a part
of it. -/
theorem parse_print_no_break_space :
    let config : Config := ⟨false⟩
    let s : Selector := ⟨"a", []⟩
    let l : Layout := .uniform (.single '\u00a0' rfl) []
    WellFormed config s ∧ l.Fits s ∧
      Selector.parse config (String.ofList (print l s)) ≠ .ok s := by
  intro config s l
  have hs : WellFormed config s := by
    refine ⟨List.forall_iff_forall_mem.1 (by decide), ?_, by simp [s], by simp [s]⟩
    simpa [s] using (by decide : isBlank 'a' = false)
  refine ⟨hs, by simp [Layout.Fits, s], fun h => ?_⟩
  obtain ⟨left, hr, -⟩ := Reading.selector_iff.1 (Selector.parse_eq_ok_iff.1 h)
  have hname : (Reading.run Reading.isNameChar (skipBlanks (print l s))).1 = ['a', '\u00a0'] := by
    decide
  rw [String.toList_ofList] at hr
  simp [hr, s] at hname

end Printing

end ComponentQuery
