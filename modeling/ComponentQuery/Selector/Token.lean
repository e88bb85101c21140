import ComponentQuery.Number.Literal
import ComponentQuery.Selector.Comparison
import ComponentQuery.Selector.Config
import ComponentQuery.Selector.Error
import ComponentQuery.Unicode.Blank

/-!
# Tokens of selectors

The pieces that selectors are made of.  Each function reads one piece from the front of a list of
characters and gives it together with the characters that are left, or fails.  A failure is the
list of characters that starts where the problem is, and its cause: no function knows how much
of the text has been read before, which is what makes them independent of it.

For each function there is a lemma that what it leaves is an end of what it was given
(`IsSuffix`), from which it follows that reading comes to an end.
-/

namespace ComponentQuery

namespace Reading

/-! ## Failures -/

/-- Why reading fails. -/
inductive Cause where
  /-- The next character, or the end, is not expected. -/
  | unexpected (stage : Option Stage)
  | invalidRegex (message : String)
  | regexOperator (operator : Operator)
  | nonTextOperand (operator : Operator) (operand : String)
  | empty
deriving DecidableEq, Repr

/-- What is left where reading fails, and the cause. -/
structure Failure where
  rest : List Char
  cause : Cause
deriving DecidableEq, Repr

/-- The problem that a failure at some position is. -/
def Failure.problemAt (position : Nat) (f : Failure) : Problem :=
  match f.cause with
  | .unexpected stage =>
    match f.rest with
    | [] => .unexpectedEnd position stage
    | c :: _ => .unexpectedSymbol c position stage
  | .invalidRegex message => .invalidRegex position message
  | .regexOperator operator => .regexOperator position operator
  | .nonTextOperand operator operand => .nonTextOperand position operator operand
  | .empty => .empty

end Reading

/-- What reading an `α` from the front of a list gives. -/
abbrev Reading (α : Type) := Except Reading.Failure (α × List Char)

namespace Reading

/-- The next character is not expected. -/
def unexpected {α : Type} (stage : Stage) (rest : List Char) : Except Failure α :=
  .error ⟨rest, .unexpected (some stage)⟩

/-! ## Names -/

/-- Whether a character may be part of a name: all characters beyond ASCII may. -/
def isNameChar (c : Char) : Bool :=
  0x80 ≤ c.toNat || c.isAlphanum || c == '_' || c == '-'

/-- Reads as many characters of a kind as there are. -/
def run (p : Char → Bool) (cs : List Char) : List Char × List Char :=
  (cs.takeWhile p, cs.dropWhile p)

theorem run_append (p : Char → Bool) (cs : List Char) : (run p cs).1 ++ (run p cs).2 = cs :=
  List.takeWhile_append_dropWhile

theorem run_isSuffix (p : Char → Bool) (cs : List Char) : (run p cs).2 <:+ cs :=
  List.dropWhile_suffix p

theorem skipBlanks_isSuffix (cs : List Char) : skipBlanks cs <:+ cs :=
  List.dropWhile_suffix isBlank

/-! ## Texts in quotation marks -/

/-- Reads a text up to a quotation mark.  A backslash stands before a character that is
to be taken as it is. -/
def quoted (mark : Char) : List Char → Reading (List Char)
  | [] => unexpected .quotedString []
  | c :: rest =>
    if c = mark then .ok ([], rest)
    else if c = '\\' then
      match rest with
      | [] => unexpected .quotedString []
      | e :: rest =>
        match quoted mark rest with
        | .error f => .error f
        | .ok (text, rest) => .ok (e :: text, rest)
    else
      match quoted mark rest with
      | .error f => .error f
      | .ok (text, rest) => .ok (c :: text, rest)

/-- Reading a text in quotation marks leaves an end of the list, and not all of it. -/
theorem quoted_isSuffix {mark : Char} {cs text rest : List Char}
    (h : quoted mark cs = .ok (text, rest)) : ∃ c cs', cs = c :: cs' ∧ rest <:+ cs' := by
  fun_induction quoted mark cs generalizing text rest with
  | case1 => simp [unexpected] at h
  | case2 more => exact ⟨_, more, rfl, by simp_all⟩
  | case3 => simp [unexpected] at h
  | case4 => simp at h
  | case5 e cs t r hr _ ih =>
    obtain ⟨rfl, rfl⟩ : e :: t = text ∧ r = rest := by simpa using h
    obtain ⟨d, ds, rfl, hs⟩ := ih hr
    exact ⟨_, _, rfl, hs.trans ((List.suffix_cons d ds).trans (List.suffix_cons e _))⟩
  | case6 => simp at h
  | case7 c cs _ _ t r hr ih =>
    obtain ⟨rfl, rfl⟩ : c :: t = text ∧ r = rest := by simpa using h
    obtain ⟨d, ds, rfl, hs⟩ := ih hr
    exact ⟨_, _, rfl, hs.trans (List.suffix_cons d ds)⟩

/-! ## Regular expressions -/

/-- Reads the source of a regular expression up to the slash that ends it.  A slash after a
backslash, or between square brackets, is part of the source, and so are all backslashes. -/
def regexSource (inClass : Bool) : List Char → Reading (List Char)
  | [] => unexpected .regularExpression []
  | '\\' :: rest =>
    match rest with
    | [] => unexpected .regularExpression []
    | e :: rest =>
      match regexSource inClass rest with
      | .error f => .error f
      | .ok (source, rest) => .ok ('\\' :: e :: source, rest)
  | c :: rest =>
    if c = '/' ∧ inClass = false then .ok ([], rest)
    else
      match regexSource (if inClass then c ≠ ']' else c = '[') rest with
      | .error f => .error f
      | .ok (source, rest) => .ok (c :: source, rest)

/-- Reading the source of a regular expression leaves an end of the list, and not all of it. -/
theorem regexSource_isSuffix {inClass : Bool} {cs source rest : List Char}
    (h : regexSource inClass cs = .ok (source, rest)) :
    ∃ c cs', cs = c :: cs' ∧ rest <:+ cs' := by
  fun_induction regexSource inClass cs generalizing source rest with
  | case1 => simp [unexpected] at h
  | case2 => simp [unexpected] at h
  | case3 => simp at h
  | case4 _ e cs s r hr ih =>
    obtain ⟨rfl, rfl⟩ : '\\' :: e :: s = source ∧ r = rest := by simpa using h
    obtain ⟨d, ds, rfl, hs⟩ := ih hr
    exact ⟨_, _, rfl, hs.trans ((List.suffix_cons d ds).trans (List.suffix_cons e _))⟩
  | case5 _ c more => exact ⟨c, more, rfl, by simp_all⟩
  | case6 => simp at h
  | case7 _ c cs _ _ s r hr ih =>
    obtain ⟨rfl, rfl⟩ : c :: s = source ∧ r = rest := by simpa using h
    obtain ⟨d, ds, rfl, hs⟩ := ih hr
    exact ⟨_, _, rfl, hs.trans (List.suffix_cons d ds)⟩

/-- Reads a regular expression after its first slash.  One that is refused is a problem at that
slash. -/
def regexLiteral (afterSlash : List Char) : Reading Regex :=
  match regexSource false afterSlash with
  | .error f => .error f
  | .ok (source, rest) =>
    let (flags, rest) := run Regex.isFlag rest
    match Regex.compile (String.ofList source) (String.ofList flags) with
    | .error refusal => .error ⟨'/' :: afterSlash, .invalidRegex refusal.message⟩
    | .ok regex => .ok (regex, rest)

theorem regexLiteral_isSuffix {cs rest : List Char} {r : Regex}
    (h : regexLiteral cs = .ok (r, rest)) : rest <:+ cs := by
  revert h
  fun_cases regexLiteral cs with
  | case3 source left hs flags left' hflags regex =>
    intro h
    obtain ⟨c, cs', rfl, hl⟩ := regexSource_isSuffix hs
    obtain ⟨-, rfl⟩ := Prod.mk.inj (Except.ok.inj h)
    have hleft : left' <:+ left := by simpa [hflags] using run_isSuffix Regex.isFlag left
    exact (hleft.trans hl).trans (List.suffix_cons c cs')
  | _ => simp

/-! ## Paths -/

/-- Reads a part of a path: a name or a text in quotation marks, which may not be empty. -/
def segment (cs : List Char) : Reading String :=
  let read : Reading (List Char) :=
    match skipBlanks cs with
    | '"' :: rest => quoted '"' rest
    | '\'' :: rest => quoted '\'' rest
    | rest => .ok (run isNameChar rest)
  match read with
  | .error f => .error f
  | .ok ([], rest) => unexpected .propertyPath rest
  | .ok (text, rest) => .ok (String.ofList text, rest)

/-- Reading a part of a path takes at least one character and leaves an end of the list. -/
theorem segment_isSuffix {cs rest : List Char} {s : String} (h : segment cs = .ok (s, rest)) :
    rest <:+ cs ∧ rest.length < cs.length := by
  have key : ∀ {ds : List Char}, ds <:+ cs → rest <:+ ds → rest.length < ds.length →
      rest <:+ cs ∧ rest.length < cs.length :=
    fun hd hr hl => ⟨hr.trans hd, Nat.lt_of_lt_of_le hl hd.length_le⟩
  have mark : ∀ {m : Char} {ds text : List Char}, skipBlanks cs = m :: ds →
      quoted m ds = .ok (text, rest) → rest <:+ cs ∧ rest.length < cs.length := by
    intro m ds text hd hq
    obtain ⟨c, cs', rfl, hs⟩ := quoted_isSuffix hq
    refine key (hd ▸ skipBlanks_isSuffix cs)
      (hs.trans ((List.suffix_cons c cs').trans (List.suffix_cons m _))) ?_
    have := hs.length_le
    simp only [List.length_cons]
    omega
  revert h
  fun_cases segment cs with
  | case1 => simp
  | case2 => simp [unexpected]
  | case3 read text left hne hread =>
    intro h
    obtain ⟨-, rfl⟩ := Prod.mk.inj (Except.ok.inj h)
    simp only [read] at hread
    split at hread
    · exact mark ‹_› hread
    · exact mark ‹_› hread
    · -- A name takes characters, since its text is not empty.
      have hrun : run isNameChar (skipBlanks cs) = (text, left) := Except.ok.inj hread
      have hs := run_isSuffix isNameChar (skipBlanks cs)
      have happ := congrArg List.length (run_append isNameChar (skipBlanks cs))
      rw [hrun] at hs happ
      refine key (skipBlanks_isSuffix cs) hs ?_
      have := List.length_pos_iff.2 hne
      simp only [List.length_append] at happ
      omega

theorem length_lt_after_dot {cs afterDot rest : List Char} {s : String}
    (h : skipBlanks cs = '.' :: afterDot) (hs : segment afterDot = .ok (s, rest)) :
    rest.length < cs.length := by
  have := (segment_isSuffix hs).2
  have := length_skipBlanks_le cs
  rw [h, List.length_cons] at this
  omega

/-- Reads the parts of a path that follow the first, each after a dot. -/
def moreSegments (cs : List Char) : Reading (List String) :=
  match h : skipBlanks cs with
  | '.' :: rest =>
    match hs : segment rest with
    | .error f => .error f
    | .ok (s, rest) =>
      have := length_lt_after_dot h hs
      match moreSegments rest with
      | .error f => .error f
      | .ok (path, rest) => .ok (s :: path, rest)
  | rest => .ok ([], rest)
termination_by cs.length

/-- One more part of a path, as an equation without the proof that less is left. -/
theorem moreSegments_eq (cs : List Char) :
    moreSegments cs =
      match skipBlanks cs with
      | '.' :: rest =>
        match segment rest with
        | .error f => .error f
        | .ok (s, rest) =>
          match moreSegments rest with
          | .error f => .error f
          | .ok (path, rest) => .ok (s :: path, rest)
      | rest => .ok ([], rest) := by
  fun_cases moreSegments cs with
  | case1 left hdot f hs => simp only [hdot, hs]
  | case2 left hdot s left' hs _ f hm => simp only [hdot, hs, hm]
  | case3 left hdot s left' hs _ path left'' hm => simp only [hdot, hs, hm]
  | case4 hend =>
    split
    · exact absurd ‹_› (hend _)
    · rfl

theorem moreSegments_isSuffix {cs rest : List Char} {path : List String}
    (h : moreSegments cs = .ok (path, rest)) : rest <:+ cs := by
  fun_induction moreSegments cs generalizing path rest with
  | case1 => simp at h
  | case2 => simp at h
  | case3 cs more hb s left hs _ p r hr ih =>
    obtain ⟨-, rfl⟩ : s :: p = path ∧ r = rest := by simpa using h
    have hcs := hb ▸ skipBlanks_isSuffix cs
    exact (ih hr).trans ((segment_isSuffix hs).1.trans ((List.suffix_cons '.' _).trans hcs))
  | case4 cs =>
    obtain ⟨-, rfl⟩ := by simpa using h
    exact skipBlanks_isSuffix cs

/-! ## Operators -/

/-- Reads an operator.  Its two characters stand side by side. -/
def operator (cs : List Char) : Reading Operator :=
  match skipBlanks cs with
  | [] => unexpected .operator []
  | '=' :: rest => .ok (.equals, rest)
  | c :: rest =>
    match TextRelation.ofSign? c, rest with
    | none, _ => unexpected .operator (c :: rest)
    | some relation, '=' :: rest => .ok (.relates relation, rest)
    | some _, _ => unexpected .operator rest

theorem operator_isSuffix {cs rest : List Char} {op : Operator}
    (h : operator cs = .ok (op, rest)) : rest <:+ cs := by
  refine List.IsSuffix.trans ?_ (skipBlanks_isSuffix cs)
  revert h
  fun_cases operator cs with
  | case2 left hcs =>
    intro h
    obtain ⟨-, rfl⟩ := Prod.mk.inj (Except.ok.inj h)
    exact hcs ▸ List.suffix_cons '=' left
  | case4 c _ r left _ hcs =>
    intro h
    obtain ⟨-, rfl⟩ := Prod.mk.inj (Except.ok.inj h)
    exact hcs ▸ (List.suffix_cons '=' left).trans (List.suffix_cons c _)
  | _ => simp [unexpected]

/-! ## Values without quotation marks -/

/-- Whether a character may be part of a value without quotation marks. -/
def isTokenChar (c : Char) : Bool := isNameChar c || c == '+' || c == '.'

/-- What a value without quotation marks stands for.  An empty one is zero where numbers are
wanted. -/
def tokenOperand? (config : Config) (token : List Char) : Option Operand :=
  if token = [] then
    some (if config.allowUnquotedStrings then .text "" else .number (.zero false))
  else if token = "true".toList then some (.boolean true)
  else if token = "false".toList then some (.boolean false)
  else if config.allowUnquotedStrings then some (.text (String.ofList token))
  else (numericLiteral? token).map .number

/-- Reads a value without quotation marks.  One that is not a number where numbers are wanted is a
problem at its first character. -/
def unquotedValue (config : Config) (cs : List Char) : Reading Operand :=
  let (token, rest) := run isTokenChar cs
  match tokenOperand? config token with
  | none => unexpected .attributeValue cs
  | some operand => .ok (operand, rest)

theorem unquotedValue_isSuffix {config : Config} {cs rest : List Char} {v : Operand}
    (h : unquotedValue config cs = .ok (v, rest)) : rest <:+ cs := by
  revert h
  fun_cases unquotedValue config cs with
  | case1 => simp [unexpected]
  | case2 token left htoken =>
    intro h
    obtain ⟨-, rfl⟩ := Prod.mk.inj (Except.ok.inj h)
    simpa [htoken] using run_isSuffix isTokenChar cs

end Reading

end ComponentQuery
