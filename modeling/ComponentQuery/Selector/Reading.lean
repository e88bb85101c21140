import ComponentQuery.Selector.Predicate
import ComponentQuery.Selector.Token

/-!
# Reading selectors

A selector is a name, or none, and clauses in square brackets.  A clause is a path, and after it
perhaps an operator and a value:

    selector  =  name? ('[' path (operator value)? ']')*
    path      =  part ('.' part)*          part  =  name | quoted text
    operator  =  '=' | '*=' | '^=' | '$=' | '|=' | '~='
    value     =  quoted text letter?  |  regular expression  |  token

Blanks may stand before every piece and at the end.  The letter after a quoted text is `i` for a
comparison that takes no account of case, or `s` for one that does.

`Selector.parse` reads a whole text.  It stops at the first problem, and the problem is placed by
what is left of the text there.
-/

namespace ComponentQuery

namespace Reading

/-! ## Values -/

/-- Reads the letter after a text in quotation marks.  Only `i`, small or not, makes the
comparison take no account of case. -/
def caseLetter (cs : List Char) : Bool × List Char :=
  match skipBlanks cs with
  | 'i' :: rest => (false, rest)
  | 'I' :: rest => (false, rest)
  | 's' :: rest => (true, rest)
  | 'S' :: rest => (true, rest)
  | rest => (true, rest)

theorem caseLetter_isSuffix (cs : List Char) : (caseLetter cs).2 <:+ cs := by
  refine List.IsSuffix.trans ?_ (skipBlanks_isSuffix cs)
  unfold caseLetter
  split <;> simp_all [List.suffix_cons]

/-- Reads a text in quotation marks with the letter after it. -/
def quotedValue (mark : Char) (cs : List Char) : Reading (Operand × Bool) :=
  match quoted mark cs with
  | .error f => .error f
  | .ok (text, rest) =>
    let (caseSensitive, rest) := caseLetter rest
    .ok ((.text (String.ofList text), caseSensitive), rest)

/-- Reads the value after an operator, with whether case counts.  The value starts at the front of
the list.  A regular expression is a problem at its first slash unless the operator is that of
equality. -/
def value (config : Config) (op : Operator) (cs : List Char) : Reading (Operand × Bool) :=
  match cs with
  | '/' :: rest =>
    if op = .equals then
      match regexLiteral rest with
      | .error f => .error f
      | .ok (regex, rest) => .ok ((.regex regex, true), rest)
    else .error ⟨cs, .regexOperator op⟩
  | '"' :: rest => quotedValue '"' rest
  | '\'' :: rest => quotedValue '\'' rest
  | _ =>
    match unquotedValue config cs with
    | .error f => .error f
    | .ok (operand, rest) => .ok ((operand, true), rest)

theorem quotedValue_isSuffix {mark : Char} {cs rest : List Char} {v : Operand × Bool}
    (h : quotedValue mark cs = .ok (v, rest)) : rest <:+ cs := by
  revert h
  fun_cases quotedValue mark cs with
  | case1 => simp
  | case2 text left hq _ left' hletter =>
    intro h
    obtain ⟨c, cs', rfl, hs⟩ := quoted_isSuffix hq
    obtain ⟨-, rfl⟩ := Prod.mk.inj (Except.ok.inj h)
    have hleft : left' <:+ left := by simpa [hletter] using caseLetter_isSuffix left
    exact (hleft.trans hs).trans (List.suffix_cons c cs')

theorem value_isSuffix {config : Config} {op : Operator} {cs rest : List Char}
    {v : Operand × Bool} (h : value config op cs = .ok (v, rest)) : rest <:+ cs := by
  revert h
  fun_cases value config op cs with
  | case2 cs _ r left hr =>
    intro h
    obtain ⟨-, rfl⟩ := Prod.mk.inj (Except.ok.inj h)
    exact (regexLiteral_isSuffix hr).trans (List.suffix_cons '/' cs)
  | case4 cs => exact fun h => (quotedValue_isSuffix h).trans (List.suffix_cons '"' cs)
  | case5 cs => exact fun h => (quotedValue_isSuffix h).trans (List.suffix_cons '\'' cs)
  | case6 cs f hu => simp [hu]
  | case7 cs v left hu =>
    simp only [hu]
    intro h
    obtain ⟨-, rfl⟩ := Prod.mk.inj (Except.ok.inj h)
    exact unquotedValue_isSuffix hu
  | _ => simp

/-! ## Clauses -/

/-- Reads the operator and the value of a clause and the bracket after them.  A value that the
operator cannot take is a problem where the value starts. -/
def comparison (config : Config) (cs : List Char) : Reading (Comparison × Bool) :=
  match operator cs with
  | .error f => .error f
  | .ok (op, rest) =>
    let start := skipBlanks rest
    match value config op start with
    | .error f => .error f
    | .ok ((operand, caseSensitive), rest) =>
      match skipBlanks rest with
      | ']' :: rest =>
        match Comparison.ofOperand op operand with
        | .error operand => .error ⟨start, .nonTextOperand op operand.display⟩
        | .ok c => .ok ((c, caseSensitive), rest)
      | rest => unexpected .attributeValue rest

theorem comparison_isSuffix {config : Config} {cs rest : List Char} {c : Comparison × Bool}
    (h : comparison config cs = .ok (c, rest)) : rest <:+ cs := by
  revert h
  fun_cases comparison config cs with
  | case4 op left ho start v b left' hv left'' hclose =>
    intro h
    obtain ⟨-, rfl⟩ := Prod.mk.inj (Except.ok.inj h)
    -- Behind the operator, blanks, the value, blanks and the bracket are taken.
    have hleft : left' <:+ left := (value_isSuffix hv).trans (skipBlanks_isSuffix left)
    have hbracket : ']' :: left'' <:+ left' := hclose ▸ skipBlanks_isSuffix left'
    exact (List.suffix_cons ']' left'').trans
      (hbracket.trans (hleft.trans (operator_isSuffix ho)))
  | _ => simp [unexpected]

/-- Reads a clause after its opening bracket. -/
def clause (config : Config) (cs : List Char) : Reading Predicate :=
  match segment cs with
  | .error f => .error f
  | .ok (first, rest) =>
    match moreSegments rest with
    | .error f => .error f
    | .ok (more, rest) =>
      match skipBlanks rest with
      | ']' :: rest => .ok (⟨first :: more, List.cons_ne_nil _ _, .truthy, true⟩, rest)
      | rest =>
        match comparison config rest with
        | .error f => .error f
        | .ok ((c, caseSensitive), rest) =>
          .ok (⟨first :: more, List.cons_ne_nil _ _, c, caseSensitive⟩, rest)

/-- Reading a clause takes at least one character and leaves an end of the list. -/
theorem clause_isSuffix {config : Config} {cs rest : List Char} {p : Predicate}
    (h : clause config cs = .ok (p, rest)) : rest <:+ cs ∧ rest.length < cs.length := by
  have behind : ∀ {first left more left'}, segment cs = .ok (first, left) →
      moreSegments left = .ok (more, left') → rest <:+ skipBlanks left' →
      rest <:+ cs ∧ rest.length < cs.length := by
    intro first left more left' hs hm hrest
    obtain ⟨hsuf, hlt⟩ := segment_isSuffix hs
    have hleft := (hrest.trans (skipBlanks_isSuffix left')).trans (moreSegments_isSuffix hm)
    exact ⟨hleft.trans hsuf, Nat.lt_of_le_of_lt hleft.length_le hlt⟩
  revert h
  fun_cases clause config cs with
  | case3 first left hs more left' hm left'' hclose =>
    intro h
    obtain ⟨-, rfl⟩ := Prod.mk.inj (Except.ok.inj h)
    exact behind hs hm (hclose ▸ List.suffix_cons ']' left'')
  | case5 first left hs more left' hm c b left'' _ hc =>
    intro h
    obtain ⟨-, rfl⟩ := Prod.mk.inj (Except.ok.inj h)
    exact behind hs hm (comparison_isSuffix hc)
  | _ => simp

theorem length_lt_after_clause {config : Config} {cs afterBracket rest : List Char}
    {p : Predicate} (h : skipBlanks cs = '[' :: afterBracket)
    (hc : clause config afterBracket = .ok (p, rest)) : rest.length < cs.length := by
  have := (clause_isSuffix hc).2
  have := length_skipBlanks_le cs
  rw [h, List.length_cons] at this
  omega

/-- Reads clauses as long as an opening bracket follows, and then blanks. -/
def clauses (config : Config) (cs : List Char) : Reading (List Predicate) :=
  match h : skipBlanks cs with
  | '[' :: rest =>
    match hc : clause config rest with
    | .error f => .error f
    | .ok (p, rest) =>
      have := length_lt_after_clause h hc
      match clauses config rest with
      | .error f => .error f
      | .ok (ps, rest) => .ok (p :: ps, rest)
  | rest => .ok ([], rest)
termination_by cs.length

/-- One more clause, as an equation without the proof that less is left. -/
theorem clauses_eq (config : Config) (cs : List Char) :
    clauses config cs =
      match skipBlanks cs with
      | '[' :: rest =>
        match clause config rest with
        | .error f => .error f
        | .ok (p, rest) =>
          match clauses config rest with
          | .error f => .error f
          | .ok (ps, rest) => .ok (p :: ps, rest)
      | rest => .ok ([], rest) := by
  fun_cases clauses config cs with
  | case1 left hopen f hc => simp only [hopen, hc]
  | case2 left hopen p left' hc _ f hcs => simp only [hopen, hc, hcs]
  | case3 left hopen p left' hc _ ps left'' hcs => simp only [hopen, hc, hcs]
  | case4 hend =>
    split
    · exact absurd ‹_› (hend _)
    · rfl

/-! ## Selectors -/

/-- Reads a selector, which must take the whole list. -/
def selector (config : Config) (cs : List Char) : Except Failure Selector :=
  let (name, rest) := run isNameChar (skipBlanks cs)
  match clauses config rest with
  | .error f => .error f
  | .ok (_, c :: rest) => .error ⟨c :: rest, .unexpected none⟩
  | .ok (predicates, []) =>
    if name.isEmpty && predicates.isEmpty then .error ⟨[], .empty⟩
    else .ok ⟨String.ofList name, predicates⟩

end Reading

/-- The place in a text at which `rest` is left. -/
def placeOf (text rest : List Char) : Nat := text.length - rest.length

/-- The selector that a text is. -/
def Selector.parse (config : Config) (text : String) : Except SelectorError Selector :=
  match Reading.selector config text.toList with
  | .ok s => .ok s
  | .error f => .error ⟨text, f.problemAt (placeOf text.toList f.rest)⟩

end ComponentQuery
