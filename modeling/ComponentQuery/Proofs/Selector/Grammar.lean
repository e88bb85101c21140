import ComponentQuery.Proofs.Number.Grammar
import ComponentQuery.Proofs.Text.Run
import ComponentQuery.Selector.Predicate
import ComponentQuery.Selector.Token

/-!
# The grammar of selectors

What a selector is, without reference to how one is read.  The grammar has two layers.

*Derivation* says which texts have which `Tree`: the name, the clauses, the parts of their paths
and their values, each as written.  Between any two pieces stands a gap, which is all the blanks
that there are; a name, a bare part, a token and the flags of a regular expression are maximal
runs of their kinds.  Every relation has the text before a piece, the piece, and the text
after it:

    tree     =  gap name gap (clause gap)*
    clause   =  '[' gap part (gap '.' gap part)* gap (']' | operator gap value gap ']')
    part     =  name | quoted text
    operator =  '=' | '*=' | '^=' | '$=' | '|=' | '~='
    value    =  quoted text (gap letter)? | '/' source '/' flags | token

*Denotation* says which selector a tree stands for.  Only here the settings matter, since they
decide what a token without quotation marks stands for.  Derivation knows nothing of them.

`Derives` and `Tree.Denotes` are the two relations; `ComponentQuery.Proofs.Selector.Exactness`
ties them to `Selector.parse`.
-/

namespace ComponentQuery.Grammar

/-! ## Trees -/

/-- A part of a path as written. -/
inductive Part where
  | bare (name : List Char)
  | quoted (text : List Char)

/-- The text of a part, which is the name of a property. -/
def Part.text : Part → List Char
  | bare name => name
  | quoted text => text

/-- A value as written.  A text in quotation marks has the letter that follows it, or none, as
whether case counts. -/
inductive Literal where
  | token (token : List Char)
  | quoted (text : List Char) (caseSensitive : Bool)
  | regex (source flags : List Char)

/-- A clause as written: a path, and what it is compared with, if anything. -/
structure Clause where
  first : Part
  more : List Part
  comparison : Option (Operator × Literal)

/-- A selector as written. -/
structure Tree where
  name : List Char
  clauses : List Clause

/-! ## Derivation -/

/-- The two quotation marks. -/
inductive QuotationMark : Char → Prop where
  | double : QuotationMark '"'
  | single : QuotationMark '\''

/-- What stands between two marks, and the text that it spells.  The character after a backslash
is taken as it is, and the mark stands nowhere else. -/
inductive Spelling (mark : Char) : List Char → List Char → Prop where
  | nil : Spelling mark [] []
  | escaped {body text : List Char} (c : Char) (h : Spelling mark body text) :
      Spelling mark ('\\' :: c :: body) (c :: text)
  | plain {c : Char} {body text : List Char} (hm : c ≠ mark) (hb : c ≠ '\\')
      (h : Spelling mark body text) : Spelling mark (c :: body) (c :: text)

/-- The source of a regular expression from some place on, inside of a class or not.  A slash
stands only after a backslash or inside of a class, and no class is open at the end. -/
inductive RegexBody : Bool → List Char → Prop where
  | nil : RegexBody false []
  | escaped {inClass : Bool} {body : List Char} (c : Char) (h : RegexBody inClass body) :
      RegexBody inClass ('\\' :: c :: body)
  | opening {body : List Char} (h : RegexBody true body) : RegexBody false ('[' :: body)
  | closing {body : List Char} (h : RegexBody false body) : RegexBody true (']' :: body)
  | inside {c : Char} {body : List Char} (hc : c ∉ ['\\', ']']) (h : RegexBody true body) :
      RegexBody true (c :: body)
  | outside {c : Char} {body : List Char} (hc : c ∉ ['\\', '[', '/']) (h : RegexBody false body) :
      RegexBody false (c :: body)

/-- A part of a path, which is not empty. -/
inductive DerivesPart : List Char → Part → List Char → Prop where
  | bare {name rest : List Char} (hne : name ≠ []) (h : IsRun Reading.isNameChar name rest) :
      DerivesPart (name ++ rest) (.bare name) rest
  | quoted {mark : Char} {body text rest : List Char} (hm : QuotationMark mark)
      (h : Spelling mark body text) (hne : text ≠ []) :
      DerivesPart (mark :: (body ++ mark :: rest)) (.quoted text) rest

/-- The parts of a path after the first, each after a dot, and the gap behind them. -/
inductive DerivesMore : List Char → List Part → List Char → Prop where
  | nil {cs rest : List Char} (h : Gap cs rest) : DerivesMore cs [] rest
  | cons {cs₁ cs₂ cs₃ cs₄ rest : List Char} {part : Part} {more : List Part}
      (h₁ : Gap cs₁ ('.' :: cs₂)) (h₂ : Gap cs₂ cs₃) (h₃ : DerivesPart cs₃ part cs₄)
      (h₄ : DerivesMore cs₄ more rest) : DerivesMore cs₁ (part :: more) rest

/-- An operator, whose two characters stand side by side. -/
inductive DerivesOperator : List Char → Operator → List Char → Prop where
  | equals (rest : List Char) : DerivesOperator ('=' :: rest) .equals rest
  | relates (r : TextRelation) (rest : List Char) :
      DerivesOperator (r.sign :: '=' :: rest) (.relates r) rest

/-- The letter after a text, and whether case counts. -/
inductive CaseLetter : Char → Bool → Prop where
  | insensitive {c : Char} (hc : c = 'i' ∨ c = 'I') : CaseLetter c false
  | sensitive {c : Char} (hc : c = 's' ∨ c = 'S') : CaseLetter c true

/-- A value. -/
inductive DerivesLiteral : List Char → Literal → List Char → Prop where
  | quoted {mark : Char} {body text rest : List Char} (hm : QuotationMark mark)
      (h : Spelling mark body text) :
      DerivesLiteral (mark :: (body ++ mark :: rest)) (.quoted text true) rest
  | lettered {mark letter : Char} {body text cs rest : List Char} {caseSensitive : Bool}
      (hm : QuotationMark mark) (h : Spelling mark body text) (hg : Gap cs (letter :: rest))
      (hl : CaseLetter letter caseSensitive) :
      DerivesLiteral (mark :: (body ++ mark :: cs)) (.quoted text caseSensitive) rest
  | regex {source flags rest : List Char} (hs : RegexBody false source)
      (hf : IsRun Regex.isFlag flags rest) :
      DerivesLiteral ('/' :: (source ++ '/' :: (flags ++ rest))) (.regex source flags) rest
  | token {token rest : List Char} (h : IsRun Reading.isTokenChar token rest) :
      DerivesLiteral (token ++ rest) (.token token) rest

/-- The end of a clause after its path. -/
inductive DerivesComparison : List Char → Option (Operator × Literal) → List Char → Prop where
  | absent (rest : List Char) : DerivesComparison (']' :: rest) none rest
  | present {cs₁ cs₂ cs₃ cs₄ rest : List Char} {op : Operator} {v : Literal}
      (h₁ : DerivesOperator cs₁ op cs₂) (h₂ : Gap cs₂ cs₃) (h₃ : DerivesLiteral cs₃ v cs₄)
      (h₄ : Gap cs₄ (']' :: rest)) : DerivesComparison cs₁ (some (op, v)) rest

/-- A clause. -/
inductive DerivesClause : List Char → Clause → List Char → Prop where
  | intro {cs₁ cs₂ cs₃ cs₄ rest : List Char} {first : Part} {more : List Part}
      {comparison : Option (Operator × Literal)} (h₁ : Gap cs₁ cs₂)
      (h₂ : DerivesPart cs₂ first cs₃) (h₃ : DerivesMore cs₃ more cs₄)
      (h₄ : DerivesComparison cs₄ comparison rest) :
      DerivesClause ('[' :: cs₁) ⟨first, more, comparison⟩ rest

/-- The clauses up to the end of a text, with a gap behind each. -/
inductive DerivesClauses : List Char → List Clause → Prop where
  | nil : DerivesClauses [] []
  | cons {cs₁ cs₂ cs₃ : List Char} {clause : Clause} {clauses : List Clause}
      (h₁ : DerivesClause cs₁ clause cs₂) (h₂ : Gap cs₂ cs₃)
      (h₃ : DerivesClauses cs₃ clauses) : DerivesClauses cs₁ (clause :: clauses)

/-- A whole text.  The name may be empty, and there may be no clauses, but not both. -/
inductive Derives : List Char → Tree → Prop where
  | intro {cs₁ cs₂ cs₃ name : List Char} {clauses : List Clause} (h₁ : Gap cs₁ (name ++ cs₂))
      (h₂ : IsRun Reading.isNameChar name cs₂) (h₃ : Gap cs₂ cs₃)
      (h₄ : DerivesClauses cs₃ clauses) (hne : ¬ (name = [] ∧ clauses = [])) :
      Derives cs₁ ⟨name, clauses⟩

/-! ## Denotation -/

/-- The operand that a value stands for, and whether case counts.  A token is a boolean if it can be
one; otherwise the settings decide whether it is a number, which may be left out for zero, or
a text. -/
inductive Literal.Denotes (config : Config) : Literal → Operand → Bool → Prop where
  | text (text : List Char) (caseSensitive : Bool) :
      Denotes config (.quoted text caseSensitive) (.text (String.ofList text)) caseSensitive
  | regex {source flags : List Char} {r : Regex}
      (h : Regex.compile (String.ofList source) (String.ofList flags) = .ok r) :
      Denotes config (.regex source flags) (.regex r) true
  | true : Denotes config (.token "true".toList) (.boolean Bool.true) Bool.true
  | false : Denotes config (.token "false".toList) (.boolean Bool.false) Bool.true
  | zero (hc : config.allowUnquotedStrings = Bool.false) :
      Denotes config (.token []) (.number (.zero Bool.false)) Bool.true
  | number {token : List Char} {x : Binary64} (hc : config.allowUnquotedStrings = Bool.false)
      (h : NumericLiteral token x) : Denotes config (.token token) (.number x) Bool.true
  | string {token : List Char} (hc : config.allowUnquotedStrings = Bool.true)
      (ht : token ≠ "true".toList) (hf : token ≠ "false".toList) :
      Denotes config (.token token) (.text (String.ofList token)) Bool.true

/-- The comparison that an operator and an operand make.  Only equality takes other operands than
texts. -/
inductive Makes : Operator → Operand → Comparison → Prop where
  | equals (v : Operand) : Makes .equals v (.equals v)
  | relates (r : TextRelation) (s : String) : Makes (.relates r) (.text s) (.relates r s)

/-- The names to follow that a path stands for. -/
def pathOf (parts : List Part) : List String := parts.map fun part => String.ofList part.text

/-- The comparison that the end of a clause stands for, and whether case counts. -/
inductive DenotesComparison (config : Config) :
    Option (Operator × Literal) → Comparison → Bool → Prop where
  | absent : DenotesComparison config none .truthy true
  | present {op : Operator} {l : Literal} {v : Operand} {c : Comparison} {caseSensitive : Bool}
      (hv : l.Denotes config v caseSensitive) (hc : Makes op v c) :
      DenotesComparison config (some (op, l)) c caseSensitive

/-- The predicate that a clause stands for. -/
structure Clause.Denotes (config : Config) (clause : Clause) (p : Predicate) : Prop where
  path : p.path = pathOf (clause.first :: clause.more)
  comparison : DenotesComparison config clause.comparison p.comparison p.caseSensitive

/-- The selector that a tree stands for. -/
structure Tree.Denotes (config : Config) (tree : Tree) (s : Selector) : Prop where
  name : s.name = String.ofList tree.name
  predicates : List.Forall₂ (Clause.Denotes config) tree.clauses s.predicates

end ComponentQuery.Grammar
