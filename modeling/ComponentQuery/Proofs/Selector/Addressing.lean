import ComponentQuery.Matching.Acceptance
import ComponentQuery.Proofs.Json.Numerals
import ComponentQuery.Proofs.Matching.Position
import ComponentQuery.Proofs.Selector.Printing

/-!
# Values by their positions

Every string, boolean and number inside of the properties of a component can be asked for: the text
of the clause is the path of its position, each name between marks, and behind an equals sign the
value as it is written in JSON, a string between marks of its own.  `Selector.parse_clauseText` says
that the clause is read, that it accepts the properties that it is made from, and that it accepts
others exactly if they have the same value at the position.

Three things come together for this.  Names and strings survive their marks, whatever characters
they have.  The numbers of JSON are literals (`Json.numericLiteral_of_read`) and all their
characters may be part of a token.  And the names of a position lead back to it
(`Json.Leads.resolve?_eq`).
-/

namespace ComponentQuery

open Grammar Printing

/-! ## The same value -/

/-- Strings, booleans and numbers that count as the same: strings and booleans that are equal, and
numbers whose doubles are. -/
inductive Json.SameScalar : Json → Json → Prop where
  | string (s : String) : SameScalar (.string s) (.string s)
  | boolean (b : Bool) : SameScalar (.boolean b) (.boolean b)
  | number {m n : Json.Number} (h : (n.toDouble == m.toDouble) = true) :
      SameScalar (.number m) (.number n)

/-- The operand that asks for a string, a boolean or a number. -/
def Json.operand? : Json → Option Operand
  | .string s => some (.text s)
  | .boolean b => some (.boolean b)
  | .number n => some (.number n.toDouble)
  | _ => none

variable {v : Json} {operand : Operand}

lemma equalsShape_iff (h : v.operand? = some operand) (u : Json) :
    operand.equalsShape true u.shape = true ↔ v.SameScalar u := by
  match v, h with
  | .string s, rfl =>
    constructor
    · intro hequals
      cases u with
      | string t =>
        obtain rfl := String.toList_inj.1 (eq_of_beq hequals)
        exact .string t
      | _ => simp [Json.shape, Operand.equalsShape] at hequals
    · rintro ⟨⟩
      exact beq_self_eq_true s.toList
  | .boolean b, rfl =>
    constructor
    · intro hequals
      cases u with
      | boolean c =>
        obtain rfl := eq_of_beq hequals
        exact .boolean c
      | _ => simp [Json.shape, Operand.equalsShape] at hequals
    · rintro ⟨⟩
      exact beq_self_eq_true b
  | .number m, rfl =>
    constructor
    · intro hequals
      cases u with
      | number n => exact .number hequals
      | _ => simp [Json.shape, Operand.equalsShape] at hequals
    · rintro ⟨⟩
      assumption

/-! ## Values as they are written -/

/-- A string between marks, the word for a boolean, or a text that JSON reads as a number. -/
inductive Json.Written : Json → List Char → Prop where
  | string (mark : Mark) (s : String) : Written (.string s) (Printing.quote mark s)
  | boolean (b : Bool) : Written (.boolean b) (if b then "true".toList else "false".toList)
  | number {n : Json.Number} {cs : List Char} (hspace : ∀ c ∈ cs, Json.isSpace c = false)
      (h : Json.read Json.Reader.value (String.ofList cs) = .ok (.number n)) :
      Written (.number n) cs

/-- A value that is written is the same as itself: a number in JSON is one that equals itself. -/
lemma Json.Written.sameScalar_self {cs : List Char} (h : v.Written cs) : v.SameScalar v := by
  cases h with
  | string _ s => exact .string s
  | boolean b => exact .boolean b
  | number hspace h =>
    have hliteral := Json.numericLiteral_of_read hspace h
    exact .number (Binary64.beq_self_of_isNaN hliteral.isNaN_eq_false)

/-- A token of ASCII ends where a clause ends. -/
lemma derivesLiteral_token {token : List Char} (h : ∀ c ∈ token, IsPlainTokenChar c)
    (rest : List Char) :
    DerivesLiteral (token ++ ']' :: rest) (.token token) (']' :: rest) ∧
      ∀ c ∈ (token ++ ']' :: rest).head?, isBlank c = false := by
  refine ⟨.token (.before_cons (fun c hc => (h c hc).2) (by decide)), ?_⟩
  cases token with
  | nil => simpa using (by decide : isBlank ']' = false)
  | cons c token => simpa using (h c (List.mem_cons_self ..)).isBlank_eq_false

lemma Json.Written.exists_derivesLiteral {cs : List Char} (h : v.Written cs) (rest : List Char) :
    ∃ literal operand, v.operand? = some operand ∧
      DerivesLiteral (cs ++ ']' :: rest) literal (']' :: rest) ∧
      literal.Denotes ⟨false⟩ operand true ∧
      ∀ c ∈ (cs ++ ']' :: rest).head?, isBlank c = false := by
  cases h with
  | string mark s =>
    refine ⟨.quoted s.toList true, .text s, rfl, ?_, ?_, head_quote mark s _⟩
    · rw [Printing.quote_append]
      exact .quoted mark.quotationMark (spelling_escape _ _)
    · simpa using Literal.Denotes.text s.toList true
  | boolean b =>
    have hden : (Literal.token (if b then "true".toList else "false".toList)).Denotes ⟨false⟩
        (.boolean b) true := by
      cases b
      · exact .false
      · exact .true
    have hbare : IsBare (.boolean b) := trivial
    obtain ⟨hd, hhead⟩ := derivesLiteral_token (isPlainTokenChar_of_denotes hbare hden) rest
    exact ⟨_, .boolean b, rfl, hd, hden, hhead⟩
  | @number n cs hspace h =>
    have hliteral := Json.numericLiteral_of_read hspace h
    obtain ⟨hd, hhead⟩ := derivesLiteral_token (isPlainTokenChar_of_numericLiteral hliteral) rest
    exact ⟨_, .number n.toDouble, rfl, hd, .number rfl hliteral, hhead⟩

/-! ## Clauses -/

/-- The clause that asks for a value: names between marks with dots between them, an equals sign
and a literal. -/
def clauseText (parts : List (Mark × String)) (literal : List Char) : String :=
  String.ofList ('[' :: (['.'].intercalate (parts.map fun part => Printing.quote part.1 part.2) ++
    '=' :: (literal ++ [']'])))

lemma intercalate_cons {α : Type} (sep as : List α) (rest : List (List α)) :
    sep.intercalate (as :: rest) = as ++ rest.flatMap (sep ++ ·) := by
  induction rest generalizing as with
  | nil => simp
  | cons bs rest ih => simp [List.intercalate_cons_cons, ih]

/-- Names between marks, each after a dot, are the parts of a path. -/
lemma derivesMore_quote {parts : List (Mark × String)} (hparts : ∀ part ∈ parts, part.2 ≠ "")
    {rest : List Char} (hrest : ∀ c ∈ rest.head?, isBlank c = false) :
    DerivesMore (parts.flatMap (fun part => '.' :: Printing.quote part.1 part.2) ++ rest)
      (parts.map fun part => .quoted part.2.toList) rest := by
  induction parts with
  | nil => exact .nil (gap_self hrest)
  | cons part parts ih =>
    obtain ⟨hpart, hparts⟩ := List.forall_mem_cons.1 hparts
    rw [List.flatMap_cons, List.append_assoc, List.cons_append]
    exact .cons (gap_self (by simpa using (by decide : isBlank '.' = false)))
      (gap_self (head_quote part.1 part.2 _)) (derivesPart_quote part.1 hpart _) (ih hparts)

/-- The clause is one that compares the property at the path with the operand. -/
lemma exists_derivesClause {parts : List (Mark × String)} (hne : parts ≠ [])
    (hparts : ∀ part ∈ parts, part.2 ≠ "") {cs : List Char} (h : v.Written cs) :
    ∃ clause operand, v.operand? = some operand ∧
      DerivesClause (clauseText parts cs).toList clause [] ∧
      ∀ hpath, clause.Denotes ⟨false⟩ ⟨parts.map Prod.snd, hpath, .equals operand, true⟩ := by
  obtain ⟨part, parts, rfl⟩ := List.exists_cons_of_ne_nil hne
  obtain ⟨hpart, hparts⟩ := List.forall_mem_cons.1 hparts
  obtain ⟨literal, operand, hoperand, hd, hden, hhead⟩ := h.exists_derivesLiteral []
  refine ⟨⟨.quoted part.2.toList, parts.map fun part => .quoted part.2.toList,
    some (.equals, literal)⟩, operand, hoperand, ?_, fun hpath => ⟨?_, .present hden (.equals _)⟩⟩
  · rw [clauseText, String.toList_ofList, List.map_cons, intercalate_cons, List.flatMap_map,
      List.append_assoc]
    refine .intro (gap_self (head_quote part.1 part.2 _)) (derivesPart_quote part.1 hpart _)
      (derivesMore_quote hparts (by simpa using (by decide : isBlank '=' = false)))
      (.present (.equals _) (gap_self hhead) hd ?_)
    exact gap_self (by simpa using (by decide : isBlank ']' = false))
  · simp [pathOf, Part.text, Function.comp_def]

/-! ## Selectors of one clause -/

lemma parse_of_derivesClause {config : Config} {text : String} {clause : Clause} {p : Predicate}
    (h : DerivesClause text.toList clause []) (hp : clause.Denotes config p) :
    Selector.parse config text = .ok ⟨"", [p]⟩ := by
  obtain ⟨cs, hcs⟩ := Reading.exists_cons_of_derivesClause h
  have hhead : ∀ c ∈ text.toList.head?, isBlank c = false ∧ Reading.isNameChar c = false := by
    simpa [hcs] using (by decide : isBlank '[' = false ∧ Reading.isNameChar '[' = false)
  have hgap := gap_self fun c hc => (hhead c hc).1
  rw [Selector.parse_eq_ok_iff, Reading.selector_eq_ok_iff]
  refine ⟨⟨[], [clause]⟩, .intro hgap ⟨by simp, fun c hc => (hhead c hc).2⟩ hgap
    (.cons h (gap_self (by simp)) .nil) (by simp), rfl, ?_⟩
  exact .cons hp .nil

lemma accepts_equals_iff (h : v.operand? = some operand) {path : List String} (hpath : path ≠ [])
    (name : Option String) (properties : Option Json) :
    Selector.accepts ⟨"", [⟨path, hpath, .equals operand, true⟩]⟩ name properties = true ↔
      ∃ u, properties.bind (·.resolve? path) = some u ∧ v.SameScalar u := by
  simp only [Selector.accepts, Selector.acceptsName, Predicate.accepts, Predicate.holds,
    Comparison.holds, beq_self_eq_true, Bool.true_or, Bool.true_and, List.all_cons, List.all_nil,
    Bool.and_true, Option.any_map]
  cases properties.bind (·.resolve? path) with
  | none => simp
  | some u => simpa using equalsShape_iff h u

/-- **Every string, boolean and number can be asked for.**  The clause of a position in the
properties of a component and of the value there, as it is written, is read where numbers are
wanted.  It accepts these properties, and of all others those whose value at the path is the same:
of the same type and equal, numbers as doubles.  Where there is no value, or another one, it accepts
nothing. -/
theorem Selector.parse_clauseText {doc : Json} (hdoc : doc.Valid) {parts : List (Mark × String)}
    (hne : parts ≠ []) (hposition : doc.Leads (parts.map Prod.snd) v) {literal : List Char}
    (hliteral : v.Written literal) :
    ∃ s, Selector.parse ⟨false⟩ (clauseText parts literal) = .ok s ∧
      (∀ name, s.accepts name (some doc) = true) ∧
      ∀ name properties, s.accepts name properties = true ↔
        ∃ u, properties.bind (·.resolve? (parts.map Prod.snd)) = some u ∧ v.SameScalar u := by
  have hparts : ∀ part ∈ parts, part.2 ≠ "" := fun part hpart =>
    hposition.ne_empty _ (List.mem_map_of_mem hpart)
  have hpath : parts.map Prod.snd ≠ [] := by simpa using hne
  obtain ⟨clause, operand, hoperand, hd, hden⟩ := exists_derivesClause hne hparts hliteral
  have haccepts := accepts_equals_iff hoperand hpath
  refine ⟨_, parse_of_derivesClause hd (hden hpath), fun name => ?_, haccepts⟩
  exact (haccepts name _).2 ⟨v, (hposition.resolve?_eq hdoc).1, hliteral.sameScalar_self⟩

/-- An integer two steps behind a name with a dot: a document that has it as a double is accepted as
well, and one that has it as a string is not. -/
theorem Selector.parse_clauseText_integer :
    let parts := [(Mark.double, "b.c"), (Mark.single, "1")]
    let properties (v : Json) : Json := .object [("b.c", .array [.null, v])]
    (properties (.number (.integer 7))).Valid ∧
      (properties (.number (.integer 7))).Leads (parts.map Prod.snd) (.number (.integer 7)) ∧
      (Json.number (.integer 7)).Written ['7'] ∧
      ∃ s, Selector.parse ⟨false⟩ (clauseText parts ['7']) = .ok s ∧
        s.accepts none (some (properties (.number (.integer 7)))) = true ∧
        s.accepts none (some (properties (.number (.double (.ofDecimal false 70 (-1)))))) = true ∧
        s.accepts none (some (properties (.string "7"))) = false := by
  intro parts properties
  have hvalid : (Json.number (.integer 7)).Valid := ⟨by decide, by decide⟩
  have hdoc : (properties (.number (.integer 7))).Valid :=
    ⟨List.pairwise_singleton .., ⟨trivial, hvalid, trivial⟩, trivial⟩
  have hone : String.ofList (Decimal.digitsText 1) = "1" := by decide
  have hposition : (properties (.number (.integer 7))).Leads (parts.map Prod.snd)
      (.number (.integer 7)) :=
    .member (by decide) (List.mem_singleton_self _) (hone ▸ .item (by decide) rfl (.here _))
  have hwritten : (Json.number (.integer 7)).Written ['7'] :=
    .number (by simpa using (by decide)) (Json.read_text hvalid (by decide))
  obtain ⟨s, hs, hself, haccepts⟩ :=
    Selector.parse_clauseText hdoc (by decide) hposition hwritten
  refine ⟨hdoc, hposition, hwritten, s, hs, hself none, (haccepts ..).2 ⟨_, rfl, .number ?_⟩, ?_⟩
  · decide +kernel
  · rw [← Bool.not_eq_true, haccepts]
    rintro ⟨u, hu, hsame⟩
    obtain rfl := Option.some.inj hu
    cases hsame

end ComponentQuery
