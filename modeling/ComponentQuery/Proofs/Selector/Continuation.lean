import ComponentQuery.Proofs.Selector.Failure
import ComponentQuery.Proofs.Selector.Scan

/-!
# What reading comes to from a state on

At every state of the machine that reads one character at a time there is something left to be read,
and the functions of the reader say what that comes to (`State.readOn`): what has been read of
a piece is put in front of what they read of the rest of it, and then they read on behind it.  No
step changes what reading comes to (`State.readOn_step`), so that a run that ends does so with
what the reader gives.

The proof has one lemma for each point inside of a clause.  A step there looks at the next character
only, as the functions of the reader do when they are unfolded once.
-/

namespace ComponentQuery.Scan

open Reading Grammar

/-! ## Continuations

What reading a piece to its end comes to, some of which has been read.  Two names recur: `behind`
some piece, what is left is given; `with` some piece, what reading that piece has come to is. -/

/-- What reading a text in quotation marks to its end comes to. -/
def Quoted.readOn (q : Quoted) : List Char → Reading (List Char)
  | [] => unexpected .quotedString []
  | c :: cs =>
    match q.take c with
    | .inl q => q.readOn cs
    | .inr text => .ok (text, cs)

/-- What reading the source of a regular expression to its end comes to. -/
def Source.readOn (s : Source) : List Char → Reading (List Char)
  | [] => unexpected .regularExpression []
  | c :: cs =>
    match s.take c with
    | .inl s => s.readOn cs
    | .inr source => .ok (source, cs)

/-- Reads on behind a piece. -/
def andThen {α β : Type} (r : Reading α) (k : α → List Char → Except Failure β) :
    Except Failure β :=
  match r with
  | .error f => .error f
  | .ok (a, rest) => k a rest

/-- A clause whose path and comparison have been read. -/
def finishClause (path : List String) (c : Comparison) (caseSensitive : Bool) (rest : List Char) :
    Reading Predicate :=
  match Predicate.ofPath? path c caseSensitive with
  | some p => .ok (p, rest)
  | none => unexpected .propertyPath rest

/-- A clause with its comparison. -/
def withComparison (path : List String) (r : Reading (Comparison × Bool)) : Reading Predicate :=
  andThen r fun c rest => finishClause path c.1 c.2 rest

/-- A clause behind a part of its path. -/
def behindPart (config : Config) (path : List String) (cs : List Char) : Reading Predicate :=
  andThen (moreSegments cs) fun more rest =>
    match skipBlanks rest with
    | ']' :: rest => finishClause (path ++ more) .truthy true rest
    | rest => withComparison (path ++ more) (comparison config rest)

/-- A clause with a part of its path. -/
def withPart (config : Config) (path : List String) (r : Reading String) : Reading Predicate :=
  andThen r fun s rest => behindPart config (path ++ [s]) rest

/-- A comparison with its value, which starts at `start`. -/
def withValue (op : Operator) (start : List Char) (r : Reading (Operand × Bool)) :
    Reading (Comparison × Bool) :=
  andThen r fun v rest =>
    match skipBlanks rest with
    | ']' :: rest =>
      match Comparison.ofOperand op v.1 with
      | .error operand => .error ⟨start, .nonTextOperand op operand.display⟩
      | .ok c => .ok ((c, v.2), rest)
    | rest => unexpected .attributeValue rest

/-- A comparison behind its operator. -/
def behindOperator (config : Config) (op : Operator) (cs : List Char) :
    Reading (Comparison × Bool) :=
  withValue op (skipBlanks cs) (value config op (skipBlanks cs))

/-- A regular expression behind some of its flags. -/
def behindFlags (start source flags cs : List Char) : Reading (Operand × Bool) :=
  let (more, rest) := Reading.run Regex.isFlag cs
  match Regex.compile (String.ofList source) (String.ofList (flags ++ more)) with
  | .error refusal => .error ⟨start, .invalidRegex refusal.message⟩
  | .ok r => .ok ((.regex r, true), rest)

/-- A value behind its text in quotation marks. -/
def behindText (text cs : List Char) : Reading (Operand × Bool) :=
  let (caseSensitive, rest) := caseLetter cs
  .ok ((.text (String.ofList text), caseSensitive), rest)

/-- A token behind some of its characters. -/
def behindToken (config : Config) (start token cs : List Char) : Reading (Operand × Bool) :=
  let (more, rest) := Reading.run isTokenChar cs
  match tokenOperand? config (token ++ more) with
  | none => unexpected .attributeValue start
  | some v => .ok ((v, true), rest)

/-- What reading a clause to its end comes to. -/
def Point.readOn (config : Config) (text : List Char) (path : List String) (cs : List Char) :
    Point → Reading Predicate
  | .part => withPart config path (segment cs)
  | .bare read =>
    let (more, rest) := Reading.run isNameChar cs
    withPart config path (partOfText (.ok (read ++ more, rest)))
  | .quotedPart q => withPart config path (partOfText (q.readOn cs))
  | .behind => behindPart config path cs
  | .operator => withComparison path (comparison config cs)
  | .equality r =>
    match cs with
    | '=' :: rest => withComparison path (behindOperator config (.relates r) rest)
    | _ => unexpected .operator cs
  | .value op => withComparison path (behindOperator config op cs)
  | .regex start s =>
    withComparison path (withValue .equals (text.drop start)
      (andThen (s.readOn cs) (behindFlags (text.drop start) · [])))
  | .flags start source letters =>
    withComparison path (withValue .equals (text.drop start)
      (behindFlags (text.drop start) source letters cs))
  | .quotedValue op start q =>
    withComparison path (withValue op (text.drop start) (andThen (q.readOn cs) behindText))
  | .letter op start read =>
    withComparison path (withValue op (text.drop start) (behindText read cs))
  | .token op start read =>
    withComparison path (withValue op (text.drop start)
      (behindToken config (text.drop start) read cs))
  | .close op start v caseSensitive =>
    withComparison path (withValue op (text.drop start) (.ok ((v, caseSensitive), cs)))

/-- What reading a clause to its end comes to after a step. -/
def Turn.readOn (config : Config) (text cs : List Char) : Turn → Reading Predicate
  | .take path point => point.readOn config text path cs.tail
  | .keep path point => point.readOn config text path cs
  | .close p => .ok (p, cs.tail)
  | .fail _ f => .error f

/-- A selector behind its name and some of its clauses. -/
def behindName (config : Config) (name : List Char) (before : List Predicate) (cs : List Char) :
    Except Failure Selector :=
  match clauses config cs with
  | .error f => .error f
  | .ok (_, c :: rest) => .error ⟨c :: rest, .unexpected none⟩
  | .ok (more, []) =>
    if name.isEmpty && (before ++ more).isEmpty then .error ⟨[], .empty⟩
    else .ok ⟨String.ofList name, before ++ more⟩

/-- What reading the text to its end comes to. -/
def State.readOn (config : Config) (text : List Char) (s : State) : Except Failure Selector :=
  let cs := text.drop s.position
  match s.phase with
  | .beforeName =>
    let (more, rest) := Reading.run isNameChar (skipBlanks cs)
    behindName config (s.name ++ more) s.predicates rest
  | .name =>
    let (more, rest) := Reading.run isNameChar cs
    behindName config (s.name ++ more) s.predicates rest
  | .between => behindName config s.name s.predicates cs
  | .inside _ path point =>
    andThen (point.readOn config text path cs) fun p rest =>
      behindName config s.name (s.predicates ++ [p]) rest
  | .finished outcome => outcome

/-! ## Pieces at their start -/

lemma Quoted.readOn_eq_map (mark : Char) (text cs : List Char) :
    Quoted.readOn ⟨mark, false, text⟩ cs =
      (quoted mark cs).map fun r => (text ++ r.1, r.2) := by
  fun_induction quoted mark cs generalizing text with
  | case1 => rfl
  | case2 => simp [readOn, take, Except.map]
  | case3 => simp [readOn, take, Except.map, unexpected, *]
  | case4 => simp_all [readOn, take, Except.map]
  | case5 => simp_all [readOn, take, Except.map]
  | case6 => simp_all [readOn, take, Except.map]
  | case7 => simp_all [readOn, take, Except.map]

lemma Source.readOn_eq_map (inClass : Bool) (source cs : List Char) :
    Source.readOn ⟨inClass, false, source⟩ cs =
      (regexSource inClass cs).map fun r => (source ++ r.1, r.2) := by
  fun_induction regexSource inClass cs generalizing source with
  | case1 => rfl
  | case2 => simp [readOn, take, Except.map, unexpected]
  | case3 => simp_all [readOn, take, Except.map]
  | case4 => simp_all [readOn, take, Except.map]
  | case5 => simp_all [readOn, take, Except.map]
  | case6 inClass c rest _ hslash =>
    simp only [readOn, take, if_neg hslash]
    simp_all [Except.map]
  | case7 inClass c rest _ hslash =>
    simp only [readOn, take, if_neg hslash]
    simp_all [Except.map]

lemma map_nil_append (r : Reading (List Char)) :
    (r.map fun r => (([] : List Char) ++ r.1, r.2)) = r := by
  cases r <;> rfl

lemma Quoted.readOn_nil (mark : Char) (cs : List Char) :
    Quoted.readOn ⟨mark, false, []⟩ cs = quoted mark cs :=
  (readOn_eq_map mark [] cs).trans (map_nil_append _)

lemma Source.readOn_nil (cs : List Char) :
    Source.readOn ⟨false, false, []⟩ cs = regexSource false cs :=
  (readOn_eq_map false [] cs).trans (map_nil_append _)

/-! ## The next character -/

section

variable {p : Char → Bool} {cs : List Char} {c : Char}

lemma eq_cons_of_filter (h : cs.head?.filter p = some c) : cs = c :: cs.tail ∧ p c = true := by
  obtain ⟨hc, hp⟩ := Option.filter_eq_some_iff.1 h
  exact ⟨List.eq_cons_of_mem_head? hc, hp⟩

lemma run_of_filter_eq_some (h : cs.head?.filter p = some c) :
    Reading.run p cs = (c :: (Reading.run p cs.tail).1, (Reading.run p cs.tail).2) := by
  obtain ⟨hcs, hp⟩ := eq_cons_of_filter h
  rw [hcs]
  simp [Reading.run, hp]

lemma run_of_filter_eq_none (h : cs.head?.filter p = none) : Reading.run p cs = ([], cs) := by
  cases cs with
  | nil => rfl
  | cons c cs => simpa [Reading.run] using h

lemma drop_succ_of_drop {text : List Char} {position : Nat} (h : text.drop position = cs) :
    text.drop (position + 1) = cs.tail := by
  rw [← h, List.tail_drop]

lemma skipBlanks_tail (h : cs.head?.any isBlank = true) : skipBlanks cs.tail = skipBlanks cs := by
  cases cs with
  | nil => rfl
  | cons c cs =>
    have hc : isBlank c = true := by simpa using h
    simp [skipBlanks, hc]

lemma skipBlanks_of_not_blank (h : ¬ cs.head?.any isBlank = true) : skipBlanks cs = cs := by
  cases cs with
  | nil => rfl
  | cons c cs => exact skipBlanks_cons (by simpa using h) cs

lemma isMark_iff {c : Char} : isMark c = true ↔ QuotationMark c := by
  simp only [isMark, Bool.or_eq_true, beq_iff_eq]
  constructor
  · rintro (rfl | rfl)
    · exact .double
    · exact .single
  · rintro (_ | _)
    · exact .inl rfl
    · exact .inr rfl

lemma partText_of_filter_eq_none (h : cs.head?.filter isMark = none) :
    partText cs = .ok (Reading.run isNameChar cs) :=
  partText_of_ne_mark fun d hd hmark => Option.filter_eq_none_iff.1 h d hd (isMark_iff.2 hmark)

lemma value_of_filter_eq_none {config : Config} {op : Operator} (hslash : cs.head? ≠ some '/')
    (h : cs.head?.filter isMark = none) : value config op cs = behindToken config cs [] cs := by
  have hstart : StartsToken cs := by
    intro d hd
    have hmark := Option.filter_eq_none_iff.1 h d hd
    simp only [isMark, Bool.or_eq_true, beq_iff_eq, not_or] at hmark
    have hne : d ≠ '/' := fun heq => hslash (heq ▸ hd)
    simp [hne, hmark]
  rw [value_of_startsToken hstart]
  simp only [unquotedValue, behindToken, List.nil_append]
  cases tokenOperand? config (Reading.run isTokenChar cs).1 <;> rfl

end

/-! ## Clauses -/

lemma value_slash (config : Config) (cs : List Char) :
    value config .equals ('/' :: cs) =
      andThen (regexSource false cs) (behindFlags ('/' :: cs) · []) := by
  simp only [value, if_true, regexLiteral]
  cases regexSource false cs with
  | error f => rfl
  | ok r =>
    simp only [andThen, behindFlags, List.nil_append]
    cases Regex.compile (String.ofList r.1) (String.ofList (Reading.run Regex.isFlag r.2).1) <;> rfl

lemma quotedValue_eq_andThen (mark : Char) (cs : List Char) :
    quotedValue mark cs = andThen (quoted mark cs) behindText := by
  unfold quotedValue
  cases quoted mark cs <;> rfl

lemma comparison_eq_andThen (config : Config) (cs : List Char) :
    comparison config cs = andThen (operator cs) (behindOperator config) := by
  unfold comparison
  cases operator cs with
  | error f => rfl
  | ok r =>
    simp only [andThen, behindOperator, withValue]
    cases value config r.1 (skipBlanks r.2) <;> rfl

section

variable {config : Config} {text cs : List Char} {position : Nat} {path : List String}

lemma behindPart_tail (h : cs.head?.any isBlank = true) :
    behindPart config path cs.tail = behindPart config path cs := by
  unfold behindPart
  rw [moreSegments_eq cs.tail, moreSegments_eq cs, skipBlanks_tail h]

lemma behindPart_cons_dot (cs : List Char) :
    behindPart config path ('.' :: cs) = withPart config path (segment cs) := by
  unfold behindPart
  rw [moreSegments_eq, skipBlanks_cons (by decide)]
  simp only
  cases segment cs with
  | error f => rfl
  | ok r =>
    simp only [withPart, andThen, behindPart]
    cases moreSegments r.2 <;> simp [List.append_assoc]

lemma moreSegments_of_head (hblank : ¬ cs.head?.any isBlank = true) (hdot : cs.head? ≠ some '.') :
    moreSegments cs = .ok ([], cs) :=
  moreSegments_of_no_dot (skipBlanks_eq_iff.1 (skipBlanks_of_not_blank hblank)) hdot

lemma behindPart_cons_bracket (cs : List Char) :
    behindPart config path (']' :: cs) = finishClause path .truthy true cs := by
  have hblank : isBlank ']' = false := by decide
  unfold behindPart
  rw [moreSegments_of_head (by simp [hblank]) (by simp)]
  simp only [andThen, skipBlanks_cons hblank, List.append_nil]

lemma behindPart_of_head (hblank : ¬ cs.head?.any isBlank = true) (hdot : cs.head? ≠ some '.')
    (hclose : cs.head? ≠ some ']') :
    behindPart config path cs = withComparison path (comparison config cs) := by
  unfold behindPart
  rw [moreSegments_of_head hblank hdot]
  simp only [andThen, skipBlanks_of_not_blank hblank, List.append_nil]
  split
  · simp at hclose
  · rfl

lemma Turn.readOn_closing {rest : List Char} (hrest : rest = cs.tail) (c : Comparison)
    (caseSensitive : Bool) :
    (Turn.closing rest path c caseSensitive).readOn config text cs =
      finishClause path c caseSensitive cs.tail := by
  subst hrest
  unfold closing finishClause
  cases Predicate.ofPath? path c caseSensitive <;> rfl

namespace Point

lemma readOn_step_part :
    (Point.part.step config text position path cs.head?).readOn config text cs =
      Point.part.readOn config text path cs := by
  have hsegment : ∀ cs, segment cs = partOfText (partText (skipBlanks cs)) := fun _ => rfl
  by_cases hblank : cs.head?.any isBlank = true
  · simp only [step, if_pos hblank, Turn.readOn, readOn, hsegment, skipBlanks_tail hblank]
  · simp only [step, if_neg hblank, readOn, hsegment, skipBlanks_of_not_blank hblank]
    cases hmark : cs.head?.filter isMark with
    | some mark =>
      obtain ⟨hcs, hm⟩ := eq_cons_of_filter hmark
      rw [hcs, partText_mark (isMark_iff.1 hm)]
      simp only [Turn.readOn, readOn, Quoted.readOn_nil, List.tail_cons]
    | none =>
      rw [partText_of_filter_eq_none hmark]
      rfl

lemma readOn_step_bare (hcs : text.drop position = cs) (read : List Char) :
    ((Point.bare read).step config text position path cs.head?).readOn config text cs =
      (Point.bare read).readOn config text path cs := by
  cases hnext : cs.head?.filter isNameChar with
  | some c =>
    simp only [step, hnext, Turn.readOn, readOn, run_of_filter_eq_some hnext, List.append_assoc,
      List.singleton_append]
  | none =>
    simp only [step, hnext, readOn, run_of_filter_eq_none hnext, List.append_nil, hcs]
    cases read <;> rfl

lemma readOn_step_quotedPart (hcs : text.drop position = cs) (q : Quoted) :
    ((Point.quotedPart q).step config text position path cs.head?).readOn config text cs =
      (Point.quotedPart q).readOn config text path cs := by
  simp only [step, readOn, hcs, drop_succ_of_drop hcs]
  cases cs with
  | nil => rfl
  | cons c cs =>
    simp only [List.head?_cons, Option.map_some, Quoted.readOn]
    cases q.take c with
    | inl q => rfl
    | inr read =>
      cases read <;> rfl

lemma readOn_step_behind (hcs : text.drop position = cs) :
    (Point.behind.step config text position path cs.head?).readOn config text cs =
      Point.behind.readOn config text path cs := by
  by_cases hblank : cs.head?.any isBlank = true
  · simp only [step, if_pos hblank]
    exact behindPart_tail hblank
  · simp only [step, if_neg hblank, readOn]
    by_cases hdot : cs.head? = some '.'
    · rw [if_pos hdot, List.eq_cons_of_mem_head? hdot, behindPart_cons_dot]
      rfl
    · rw [if_neg hdot]
      by_cases hclose : cs.head? = some ']'
      · rw [if_pos hclose, Turn.readOn_closing (drop_succ_of_drop hcs),
          List.eq_cons_of_mem_head? hclose, behindPart_cons_bracket]
        rfl
      · rw [if_neg hclose]
        exact (behindPart_of_head hblank hdot hclose).symm

lemma readOn_step_operator (hcs : text.drop position = cs) :
    (Point.operator.step config text position path cs.head?).readOn config text cs =
      Point.operator.readOn config text path cs := by
  by_cases hblank : cs.head?.any isBlank = true
  · simp only [step, if_pos hblank, Turn.readOn, readOn, comparison_eq_andThen, Reading.operator,
      skipBlanks_tail hblank]
  · simp only [step, if_neg hblank, readOn, comparison_eq_andThen, Reading.operator,
      skipBlanks_of_not_blank hblank, hcs]
    cases cs with
    | nil => rfl
    | cons c cs =>
      by_cases heq : c = '='
      · subst heq
        rfl
      · simp only [List.head?_cons, Option.some.injEq, if_neg heq, Option.bind_some]
        -- The sign is known or not, and the sign `=` behind it stands there or not.
        cases hsign : TextRelation.ofSign? c with
        | some r =>
          simp only [Turn.readOn, readOn, List.tail_cons]
          split <;> simp_all [andThen, withComparison, unexpected]
        | none =>
          split <;> simp_all [andThen, withComparison, unexpected, Turn.readOn]

lemma readOn_step_equality (hcs : text.drop position = cs) (r : TextRelation) :
    ((Point.equality r).step config text position path cs.head?).readOn config text cs =
      (Point.equality r).readOn config text path cs := by
  by_cases heq : cs.head? = some '='
  · simp only [step, if_pos heq]
    rw [List.eq_cons_of_mem_head? heq]
    rfl
  · simp only [step, if_neg heq, hcs, readOn]
    split
    · simp at heq
    · rfl

lemma readOn_step_value (hcs : text.drop position = cs) (op : Operator) :
    ((Point.value op).step config text position path cs.head?).readOn config text cs =
      (Point.value op).readOn config text path cs := by
  by_cases hblank : cs.head?.any isBlank = true
  · simp only [step, if_pos hblank, Turn.readOn, readOn, behindOperator, skipBlanks_tail hblank]
  · simp only [step, if_neg hblank, readOn, behindOperator, skipBlanks_of_not_blank hblank, hcs]
    by_cases hslash : cs.head? = some '/'
    · have hcons := List.eq_cons_of_mem_head? hslash
      rw [if_pos hslash]
      by_cases hop : op = .equals
      · subst hop
        simp only [if_true, Turn.readOn, readOn, Source.readOn_nil, hcs]
        rw [hcons, value_slash]
        rfl
      · rw [if_neg hop, hcons]
        simp only [Turn.readOn, Reading.value, if_neg hop]
        rfl
    · rw [if_neg hslash]
      cases hmark : cs.head?.filter isMark with
      | some mark =>
        obtain ⟨hcons, hm⟩ := eq_cons_of_filter hmark
        simp only [Turn.readOn, readOn, Quoted.readOn_nil, hcs]
        rw [hcons, value_mark (isMark_iff.1 hm), quotedValue_eq_andThen]
        rfl
      | none =>
        rw [value_of_filter_eq_none hslash hmark]
        simp only [Turn.readOn, readOn, hcs]

lemma readOn_step_regex (hcs : text.drop position = cs) (start : Nat) (s : Source) :
    ((Point.regex start s).step config text position path cs.head?).readOn config text cs =
      (Point.regex start s).readOn config text path cs := by
  simp only [step, readOn, hcs]
  cases cs with
  | nil => rfl
  | cons c cs =>
    simp only [List.head?_cons, Option.map_some, Source.readOn]
    cases s.take c <;> rfl

lemma readOn_step_flags (start : Nat) (source letters : List Char) :
    ((Point.flags start source letters).step config text position path cs.head?).readOn config text
      cs = (Point.flags start source letters).readOn config text path cs := by
  cases hnext : cs.head?.filter Regex.isFlag with
  | some c =>
    simp only [step, hnext, Turn.readOn, readOn, behindFlags, run_of_filter_eq_some hnext,
      List.append_assoc, List.singleton_append]
  | none =>
    simp only [step, hnext, readOn, behindFlags, run_of_filter_eq_none hnext, List.append_nil]
    cases Regex.compile (String.ofList source) (String.ofList letters) <;> rfl

lemma readOn_step_quotedValue (hcs : text.drop position = cs) (op : Operator) (start : Nat)
    (q : Quoted) :
    ((Point.quotedValue op start q).step config text position path cs.head?).readOn config text cs =
      (Point.quotedValue op start q).readOn config text path cs := by
  simp only [step, readOn, hcs]
  cases cs with
  | nil => rfl
  | cons c cs =>
    simp only [List.head?_cons, Option.map_some, Quoted.readOn]
    cases q.take c <;> rfl

lemma readOn_step_letter (op : Operator) (start : Nat) (read : List Char) :
    ((Point.letter op start read).step config text position path cs.head?).readOn config text cs =
      (Point.letter op start read).readOn config text path cs := by
  by_cases hblank : cs.head?.any isBlank = true
  · simp only [step, if_pos hblank, Turn.readOn, readOn, behindText, caseLetter,
      skipBlanks_tail hblank]
  · simp only [step, if_neg hblank, readOn, behindText, caseLetter, skipBlanks_of_not_blank hblank]
    by_cases hi : cs.head? = some 'i' ∨ cs.head? = some 'I'
    · rw [if_pos hi]
      rcases hi with hi | hi <;> rw [List.eq_cons_of_mem_head? hi] <;> rfl
    · rw [if_neg hi]
      by_cases hs : cs.head? = some 's' ∨ cs.head? = some 'S'
      · rw [if_pos hs]
        rcases hs with hs | hs <;> rw [List.eq_cons_of_mem_head? hs] <;> rfl
      · rw [if_neg hs]
        split <;> simp_all [Turn.readOn, readOn]

lemma readOn_step_token (start : Nat) (op : Operator) (read : List Char) :
    ((Point.token op start read).step config text position path cs.head?).readOn config text cs =
      (Point.token op start read).readOn config text path cs := by
  cases hnext : cs.head?.filter isTokenChar with
  | some c =>
    simp only [step, hnext, Turn.readOn, readOn, behindToken, run_of_filter_eq_some hnext,
      List.append_assoc, List.singleton_append]
  | none =>
    simp only [step, hnext, readOn, behindToken, run_of_filter_eq_none hnext, List.append_nil]
    cases tokenOperand? config read <;> rfl

lemma readOn_step_close (hcs : text.drop position = cs) (op : Operator) (start : Nat) (v : Operand)
    (caseSensitive : Bool) :
    ((Point.close op start v caseSensitive).step config text position path cs.head?).readOn config
      text cs = (Point.close op start v caseSensitive).readOn config text path cs := by
  by_cases hblank : cs.head?.any isBlank = true
  · simp only [step, if_pos hblank, Turn.readOn, readOn, withValue, andThen, skipBlanks_tail hblank]
  · simp only [step, if_neg hblank, readOn, withValue, andThen, skipBlanks_of_not_blank hblank, hcs,
      drop_succ_of_drop hcs]
    by_cases hclose : cs.head? = some ']'
    · rw [if_pos hclose, List.eq_cons_of_mem_head? hclose]
      cases hmakes : Comparison.ofOperand op v with
      | error w => rfl
      | ok c => exact Turn.readOn_closing rfl c caseSensitive
    · rw [if_neg hclose]
      split
      · simp at hclose
      · rfl

/-- No step inside of a clause changes what reading the clause comes to. -/
lemma readOn_step (hcs : text.drop position = cs) (point : Point) :
    (point.step config text position path cs.head?).readOn config text cs =
      point.readOn config text path cs := by
  cases point with
  | part => exact readOn_step_part
  | bare read => exact readOn_step_bare hcs read
  | quotedPart q => exact readOn_step_quotedPart hcs q
  | behind => exact readOn_step_behind hcs
  | operator => exact readOn_step_operator hcs
  | equality r => exact readOn_step_equality hcs r
  | value op => exact readOn_step_value hcs op
  | regex start s => exact readOn_step_regex hcs start s
  | flags start source letters => exact readOn_step_flags start source letters
  | quotedValue op start q => exact readOn_step_quotedValue hcs op start q
  | letter op start read => exact readOn_step_letter op start read
  | token op start read => exact readOn_step_token start op read
  | close op start v caseSensitive => exact readOn_step_close hcs op start v caseSensitive

end Point

end

/-! ## Selectors -/

section

variable {config : Config} {name : List Char} {before : List Predicate} {cs : List Char}

/-- A clause is read from the first part of its path on. -/
lemma readOn_part (text : List Char) :
    Point.part.readOn config text [] cs = clause config cs := by
  simp only [Point.readOn, withPart, behindPart, clause]
  cases segment cs with
  | error f => rfl
  | ok r =>
    simp only [andThen, List.nil_append]
    cases moreSegments r.2 with
    | error f => rfl
    | ok r' =>
      simp only [List.singleton_append, withComparison]
      generalize skipBlanks r'.2 = cs'
      split
      · rfl
      · cases hcomparison : comparison config cs' <;>
          simp_all [andThen, finishClause, Predicate.ofPath?]

lemma behindName_tail (h : cs.head?.any isBlank = true) :
    behindName config name before cs.tail = behindName config name before cs := by
  unfold behindName
  rw [clauses_eq config cs.tail, clauses_eq config cs, skipBlanks_tail h]

lemma behindName_cons_bracket (cs : List Char) :
    behindName config name before ('[' :: cs) =
      andThen (clause config cs) fun p rest => behindName config name (before ++ [p]) rest := by
  unfold behindName
  rw [clauses_eq, skipBlanks_cons (by decide)]
  simp only
  cases clause config cs with
  | error f => rfl
  | ok r =>
    simp only [andThen]
    cases clauses config r.2 with
    | error f => rfl
    | ok r' =>
      obtain ⟨more, rest⟩ := r'
      cases rest with
      | nil => simp
      | cons c rest => rfl

lemma clauses_of_head (hblank : ¬ cs.head?.any isBlank = true) (hopen : cs.head? ≠ some '[') :
    clauses config cs = .ok ([], cs) := by
  rw [clauses_eq, skipBlanks_of_not_blank hblank]
  split
  · simp at hopen
  · rfl

end

lemma State.readOn_turn (config : Config) (text : List Char) (s : State) (start : Nat) (t : Turn) :
    (s.turn start t).readOn config text =
      andThen (t.readOn config text (text.drop s.position)) fun p rest =>
        behindName config s.name (s.predicates ++ [p]) rest := by
  cases t with
  | take path point => simp only [turn, take, readOn, predicates, Turn.readOn, List.tail_drop]
  | keep path point => rfl
  | close p =>
    simp only [turn, take, readOn, predicates, Turn.readOn, List.tail_drop, andThen,
      List.map_append, List.map_cons, List.map_nil]
  | fail taken f => cases taken <;> rfl

/-- **No step changes what reading comes to.** -/
theorem State.readOn_step (config : Config) (text : List Char) (s : State) :
    (s.step config text).readOn config text = s.readOn config text := by
  obtain ⟨cs, hcs⟩ : ∃ cs, text.drop s.position = cs := ⟨_, rfl⟩
  have hnext : text[s.position]? = cs.head? := by rw [← hcs, List.head?_drop]
  have htail := drop_succ_of_drop hcs
  obtain ⟨position, name, clauses, phase⟩ := s
  simp only at hcs htail
  simp only [step, hnext]
  cases phase with
  | beforeName =>
    by_cases hblank : cs.head?.any isBlank = true
    · simp only [if_pos hblank, readOn, take, predicates, htail, hcs, skipBlanks_tail hblank]
    · simp only [if_neg hblank, readOn, keep, predicates, hcs, skipBlanks_of_not_blank hblank]
  | name =>
    cases hname : cs.head?.filter isNameChar with
    | some c =>
      simp only [readOn, take, predicates, htail, hcs, run_of_filter_eq_some hname,
        List.append_assoc, List.singleton_append]
    | none =>
      simp only [readOn, keep, predicates, hcs, run_of_filter_eq_none hname, List.append_nil]
  | between =>
    by_cases hblank : cs.head?.any isBlank = true
    · simp only [if_pos hblank, readOn, take, predicates, htail, hcs, behindName_tail hblank]
    · simp only [if_neg hblank]
      by_cases hopen : cs.head? = some '['
      · simp only [if_pos hopen, readOn, take, predicates, htail, hcs, readOn_part]
        rw [List.eq_cons_of_mem_head? hopen, behindName_cons_bracket]
        rfl
      · -- Without a bracket there is no further clause, whether or not the text ends here.
        have hclauses : Reading.clauses config cs = .ok ([], cs) := clauses_of_head hblank hopen
        simp only [if_neg hopen]
        cases cs with
        | nil => simp [readOn, keep, predicates, hcs, behindName, hclauses, outcome]
        | cons c rest => simp [readOn, keep, hcs, behindName, hclauses]
  | inside start path point =>
    rw [readOn_turn]
    simp only [readOn, hcs, Point.readOn_step hcs point]
  | finished outcome => rfl

end ComponentQuery.Scan
